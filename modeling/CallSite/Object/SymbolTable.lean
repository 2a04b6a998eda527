import CallSite.Object.Basic

/-!
# Tables of symbols and texts

The symbol table of several formats: entries of one size, some of which only add to the one before,
and behind them the texts of long names.
-/

namespace CallSite

structure SymbolTable where
  entries : Array Window
  strings : Option Window

namespace SymbolTable

def empty : SymbolTable := ⟨#[], none⟩

/-- A table at an offset, or none at all where the offset is zero. The length of the texts counts
itself. -/
def read? (file : Window) (order : ByteOrder) (entrySize offset count : Nat) : Option SymbolTable := do
  if offset = 0 then return empty
  let entries ← file.entries? offset entrySize count
  let stringOffset := offset + entrySize * count
  let length ← file.number? order 4 stringOffset
  pure ⟨entries.toArray, file.slice? stringOffset length⟩

/-- The entries from a place on that do not add to another, read with their places. -/
def entriesFrom {α : Type} (table : SymbolTable) (read? : Nat → Window → Option α)
    (extraCount : α → Nat) : Nat → Nat → List α
  | 0, _ => []
  | fuel + 1, index =>
      match table.entries[index]? with
      | none => []
      | some w =>
          match read? index w with
          | none => []
          | some e => e :: entriesFrom table read? extraCount fuel (index + 1 + extraCount e)

/-- Every entry takes a place, so there are no more of them than places. -/
def leading {α : Type} (table : SymbolTable) (read? : Nat → Window → Option α)
    (extraCount : α → Nat) : List α :=
  table.entriesFrom read? extraCount table.entries.size 0

/-- A name of eight bytes, or a zero byte and, in the last four of them, the offset of a longer one. -/
def name? (table : SymbolTable) (order : ByteOrder) (raw : Bytes) : Option Bytes :=
  if raw.take 1 = [0] then nameAt? table.strings (order.number (raw.drop 4))
  else some raw.beforeZero

end SymbolTable

end CallSite
