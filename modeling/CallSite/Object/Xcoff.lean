import CallSite.Object.SymbolTable

/-!
# XCOFF files

Files of the extended common format, of both widths. What a symbol stands for is said by the last of
the entries that add to it.
-/

namespace CallSite.Xcoff

structure Headers where
  sectionOffset : Nat
  sectionCount : Nat
  symbolOffset : Nat
  symbolCount : Nat

def headerSize (l : ObjectLayout) : Nat := l.pick 20 24

/-- Whether the header of a program, behind that of the file, is whole; it is looked at only if it has
the usual size and the file can be run. -/
def checkProgram (l : ObjectLayout) (file : Window) (flags programSize : Nat) : Option Unit := do
  if flags.testBit 1 ∧ programSize = l.pick 72 120 then
    let _ ← file.slice? (headerSize l) programSize

def headers? (l : ObjectLayout) (file : Window) : Option Headers := do
  let header ← file.slice? 0 (headerSize l)
  let programSize ← l.read header 2 16
  let flags ← l.read header 2 18
  checkProgram l file flags programSize
  pure {
    sectionOffset := headerSize l + programSize
    sectionCount := ← l.read header 2 2
    symbolOffset := ← l.read header l.word 8
    symbolCount := ← l.read header 4 (l.pick 12 20) }

/-! ### Sections -/

/-- Sections that are filled with zeros take no room in the file. -/
def section? (l : ObjectLayout) (file w : Window) : Option ObjectSection := do
  let name ← w.bytes? 0 8
  let size ← l.read w l.word (l.pick 16 24)
  let offset ← l.read w l.word (l.pick 20 32)
  let flags ← l.read w 4 (l.pick 36 64)
  let content :=
    if flags.testBit 7 then .plain .empty
    else ((file.slice? offset size).map .plain).getD .unreadable
  pure ⟨name.beforeZero, content⟩

def sections? (l : ObjectLayout) (file : Window) (h : Headers) : Option (List ObjectSection) := do
  if h.sectionCount = 0 then return []
  let windows ← file.entries? h.sectionOffset (l.pick 40 72) h.sectionCount
  windows.mapM (section? l file)

/-! ### Symbols -/

def externalStorage : Nat := 2

def weakStorage : Nat := 111

def hiddenStorage : Nat := 107

def fileStorage : Nat := 103

/-- The classes of the symbols that have an address, whatever they stand for. -/
def addressed : List Nat := [externalStorage, weakStorage, hiddenStorage, 101, 100, 3, 110]

structure Entry where
  index : Nat
  name : Option Bytes
  value : Nat
  /-- The section, counted from one, as a signed number in two bytes. -/
  place : Nat
  storage : Nat
  extraCount : Nat

/-- The name stands in the entry or, in wide files, always among the texts. -/
def entryName? (l : ObjectLayout) (table : SymbolTable) (w : Window) : Option Bytes := do
  if l.wide then nameAt? table.strings (← l.read w 4 8)
  else table.name? l.order (← w.bytes? 0 8)

def Entry.read? (l : ObjectLayout) (table : SymbolTable) (index : Nat) (w : Window) : Option Entry := do
  pure {
    index := index
    name := entryName? l table w
    value := ← l.read w l.word (l.pick 8 0)
    place := ← l.read w 2 12
    storage := ← l.read w 1 16
    extraCount := ← l.read w 1 17 }

/-- An entry that adds to another one; in wide files it tells its type at its end. -/
def extra? (l : ObjectLayout) (table : SymbolTable) (index type : Nat) : Option Window := do
  let w ← table.entries[index]?
  if l.wide then guard ((← l.read w 1 17) = type)
  pure w

/-- The name of a file is in the first of the entries that are added to it. -/
def Entry.name? (l : ObjectLayout) (table : SymbolTable) (e : Entry) : Option Bytes :=
  if 0 < e.extraCount ∧ e.storage = fileStorage then do
    let w ← extra? l table (e.index + 1) 252
    table.name? l.order (← w.bytes? 0 8)
  else e.name

/-- Code that is defined in the file: a stretch of it, or a place in one where a function begins. -/
def isCode (type storage : Nat) : Bool :=
  type = 2 || ((type = 1 || type = 3) && (storage = 0 || storage = 6))

def Entry.isFunction (l : ObjectLayout) (table : SymbolTable) (e : Entry) : Bool :=
  let linkable := [externalStorage, weakStorage, hiddenStorage].contains e.storage
  let code := do
    let w ← extra? l table (e.index + e.extraCount) 251
    pure (isCode ((← l.read w 1 10) % 8) (← l.read w 1 11))
  linkable && 0 < e.extraCount && 0 < e.place && e.place < 0x8000 && code.getD false

def symbol (l : ObjectLayout) (table : SymbolTable) (e : Entry) : ObjectSymbol :=
  ⟨e.index, (e.name? l table).bind Bytes.toText?,
    if addressed.contains e.storage then UInt64.ofNat e.value else 0, e.isFunction l table⟩

/-! ### Files -/

def read? (l : ObjectLayout) (file : Window) : Option ObjectFile := do
  let h ← headers? l file
  let sections ← sections? l file h
  let table ← SymbolTable.read? file l.order 18 h.symbolOffset h.symbolCount
  pure ⟨l.order, sections, fun name => [[Bytes.ofText name]],
    (table.leading (Entry.read? l table) Entry.extraCount).map (symbol l table), []⟩

end CallSite.Xcoff
