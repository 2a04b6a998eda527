import CallSite.Address

/-!
# Symbols of a module

The index keeps its symbols in strictly ascending order of their identifiers, so that it holds at
most one of each and two indices with the same symbols are equal.
-/

namespace CallSite

structure Symbol where
  id : SymbolId
  name : String
  address : Address
deriving DecidableEq

structure SymbolIndex where
  entries : List Symbol
  ascending : entries.Pairwise fun a b => a.id.value < b.id.value
deriving DecidableEq

namespace SymbolIndex

def empty : SymbolIndex := ⟨[], .nil⟩

/-- Puts a symbol before those of greater identifier; one that has its own gives way and is given
back. -/
def place (s : Symbol) : List Symbol → List Symbol × Option Symbol
  | [] => ([s], none)
  | x :: xs =>
      if s.id.value < x.id.value then (s :: x :: xs, none)
      else if s.id.value = x.id.value then (s :: xs, some x)
      else
        let (later, replaced) := place s xs
        (x :: later, replaced)

theorem mem_of_mem_place {s y : Symbol} {xs : List Symbol} (h : y ∈ (place s xs).1) :
    y = s ∨ y ∈ xs := by
  induction xs with
  | nil => simpa [place] using h
  | cons x xs ih =>
      rw [place] at h
      split at h
      · simpa using h
      · split at h
        · rcases List.mem_cons.mp h with h | h
          · exact .inl h
          · exact .inr (List.mem_cons_of_mem _ h)
        · rcases List.mem_cons.mp h with h | h
          · exact .inr (h ▸ List.mem_cons_self)
          · exact (ih h).imp id (List.mem_cons_of_mem _)

theorem pairwise_place {s : Symbol} {xs : List Symbol}
    (h : xs.Pairwise fun a b => a.id.value < b.id.value) :
    (place s xs).1.Pairwise fun a b => a.id.value < b.id.value := by
  induction xs with
  | nil => simp [place]
  | cons x xs ih =>
      obtain ⟨hx, hxs⟩ := List.pairwise_cons.mp h
      rw [place]
      split
      · rename_i hlt
        refine List.pairwise_cons.mpr ⟨fun y hy => ?_, h⟩
        rcases List.mem_cons.mp hy with rfl | hy
        · exact hlt
        · exact UInt64.lt_trans hlt (hx y hy)
      · split
        · rename_i heq
          exact List.pairwise_cons.mpr ⟨fun y hy => heq ▸ hx y hy, hxs⟩
        · rename_i hlt hne
          refine List.pairwise_cons.mpr ⟨fun y hy => ?_, ih hxs⟩
          rcases mem_of_mem_place hy with rfl | hy
          · exact UInt64.lt_of_le_of_ne (UInt64.not_lt.mp hlt) (Ne.symm hne)
          · exact hx y hy

/-- The index with a symbol in it, and the symbol that had its identifier before. -/
def insert (index : SymbolIndex) (s : Symbol) : SymbolIndex × Option Symbol :=
  let placed := place s index.entries
  (⟨placed.1, pairwise_place index.ascending⟩, placed.2)

/-- Later symbols take the place of earlier ones with the same identifier. -/
def ofList (symbols : List Symbol) : SymbolIndex :=
  symbols.foldl (fun index s => (index.insert s).1) empty

def clear (_ : SymbolIndex) : SymbolIndex :=
  ⟨[], .nil⟩

def get? (index : SymbolIndex) (id : SymbolId) : Option Symbol :=
  index.entries.find? (·.id = id)

def contains (index : SymbolIndex) (id : SymbolId) : Bool :=
  index.entries.any (·.id = id)

/-- The symbol of smallest identifier that begins exactly at an address. -/
def at? (index : SymbolIndex) (address : Address) : Option Symbol :=
  index.entries.find? (·.address = address)

def size (index : SymbolIndex) : Nat :=
  index.entries.length

end SymbolIndex

end CallSite
