import CallSite.Object.SymbolTable

/-!
# COFF files

Object files of the common format, with few sections or with many. Executables in the portable format
have their sections and their symbols in the same form.
-/

namespace CallSite.Coff

def read (w : Window) (width offset : Nat) : Option Nat :=
  w.number? .little width offset

/-- What is known from the headers: where the section table is and where symbols are. -/
structure Headers where
  sectionOffset : Nat
  sectionCount : Nat
  symbolOffset : Nat
  symbolCount : Nat

/-! ### Sections -/

structure SectionHeader where
  rawName : Bytes
  virtualSize : Nat
  address : Nat
  size : Nat
  offset : Nat
  flags : Nat

def sectionHeader? (w : Window) : Option SectionHeader := do
  pure {
    rawName := ← w.bytes? 0 8
    virtualSize := ← read w 4 8
    address := ← read w 4 12
    size := ← read w 4 16
    offset := ← read w 4 20
    flags := ← read w 4 36 }

def sectionHeaders? (file : Window) (h : Headers) : Option (List SectionHeader) := do
  let windows ← file.entries? h.sectionOffset 40 h.sectionCount
  windows.mapM sectionHeader?

/-- A digit of the numbers in base 64 that stand for long section names. -/
def digit64? (b : UInt8) : Option Nat :=
  let n := b.toNat
  if 65 ≤ n ∧ n ≤ 90 then some (n - 65)
  else if 97 ≤ n ∧ n ≤ 122 then some (n - 71)
  else if 48 ≤ n ∧ n ≤ 57 then some (n + 4)
  else if n = 43 then some 62
  else if n = 47 then some 63
  else none

def digit10? (b : UInt8) : Option Nat :=
  if 48 ≤ b.toNat ∧ b.toNat ≤ 57 then some (b.toNat - 48) else none

def number? (base : Nat) (digit? : UInt8 → Option Nat) (bs : Bytes) : Option Nat := do
  let digits ← bs.mapM digit?
  pure (digits.foldl (fun n d => n * base + d) 0)

/-- A name of eight bytes, or a slash and the offset of a longer one. -/
def sectionName? (strings : Option Window) (raw : Bytes) : Option Bytes :=
  match raw with
  | 0x2f :: 0x2f :: rest => do
      let offset ← number? 64 digit64? rest
      guard (offset < UInt32.size)
      nameAt? strings offset
  | 0x2f :: rest => do
      let offset ← number? 10 digit10? (Bytes.beforeZero rest)
      nameAt? strings offset
  | _ => some raw.beforeZero

/-- Sections that are filled with zeros take no room in the file. -/
def content (file : Window) (s : SectionHeader) : SectionContent :=
  if s.flags.testBit 7 then .plain .empty
  else ((file.slice? s.offset s.size).map .plain).getD .unreadable

/-! ### Symbols -/

def externalStorage : Nat := 2

def staticStorage : Nat := 3

def labelStorage : Nat := 6

def fileStorage : Nat := 103

def weakStorage : Nat := 105

structure Entry where
  index : Nat
  rawName : Bytes
  value : Nat
  /-- The section, counted from one; zero for symbols that are in none. -/
  place : Nat
  kind : Nat
  storage : Nat
  extraCount : Nat

/-- The width of the number of a section, which is wide in files with many sections. -/
def placeWidth (wide : Bool) : Nat := if wide then 4 else 2

def symbolSize (wide : Bool) : Nat := 16 + placeWidth wide

/-- The greatest numbers are negative: they stand for absolute values and for debug information. -/
def sectionPlace (wide : Bool) (n : Nat) : Nat :=
  if n < (if wide then 0x80000000 else 0xfeff) then n else 0

def Entry.read? (wide : Bool) (index : Nat) (w : Window) : Option Entry := do
  let behind := 12 + placeWidth wide
  pure {
    index := index
    rawName := ← w.bytes? 0 8
    value := ← read w 4 8
    place := sectionPlace wide (← read w (placeWidth wide) 12)
    kind := ← read w 2 behind
    storage := ← read w 1 (behind + 2)
    extraCount := ← read w 1 (behind + 3) }

/-- Stands for a section and not for something in it. -/
def Entry.isSection (e : Entry) : Bool :=
  0 < e.extraCount && e.storage = staticStorage && e.kind = 0

/-- The name of a file is in the entries that are added to it. -/
def Entry.name? (table : SymbolTable) (e : Entry) : Option Bytes :=
  if 0 < e.extraCount ∧ e.storage = fileStorage then do
    let extra ← (List.range e.extraCount).mapM fun i => table.entries[e.index + 1 + i]?
    pure (Bytes.beforeZero (extra.flatMap Window.toBytes))
  else table.name? .little e.rawName

/-- The place in memory, zero for symbols that have none. -/
def Entry.address (imageBase : Nat) (sections : List SectionHeader) (e : Entry) : Nat :=
  let addressed := [externalStorage, staticStorage, labelStorage, weakStorage].contains e.storage
  if addressed ∧ 0 < e.place then
    match sections[e.place - 1]? with
    | some s => imageBase + s.address + e.value
    | none => 0
  else 0

def Entry.isFunction (e : Entry) : Bool :=
  let linkable := [externalStorage, staticStorage, weakStorage].contains e.storage
  linkable && e.kind / 16 % 4 = 2 && 0 < e.place && !e.isSection

def symbol (table : SymbolTable) (imageBase : Nat) (sections : List SectionHeader) (e : Entry) :
    ObjectSymbol :=
  ⟨e.index, (e.name? table).bind Bytes.toText?, UInt64.ofNat (e.address imageBase sections),
    e.isFunction⟩

/-! ### Files -/

/-- The file with these sections and symbols; there are no dynamic symbols. -/
def object (wide : Bool) (table : SymbolTable) (imageBase : Nat) (headers : List SectionHeader)
    (content : SectionHeader → SectionContent) : ObjectFile :=
  let sections := headers.filterMap fun s =>
    (sectionName? table.strings s.rawName).map fun name => ⟨name, content s⟩
  ⟨.little, sections, fun name => [[Bytes.ofText name]],
    (table.leading (Entry.read? wide) Entry.extraCount).map (symbol table imageBase headers), []⟩

def narrowHeaders? (file : Window) : Option Headers := do
  let header ← file.slice? 0 20
  pure {
    sectionOffset := 20 + (← read header 2 16)
    sectionCount := ← read header 2 2
    symbolOffset := ← read header 4 8
    symbolCount := ← read header 4 12 }

/-- What tells a file with many sections from others without a machine. -/
def wideIdentity : Bytes :=
  [0xc7, 0xa1, 0xba, 0xd1, 0xee, 0xba, 0xa9, 0x4b, 0xaf, 0x20, 0xfa, 0xf6, 0x6a, 0xa4, 0xdc, 0xb8]

def wideHeaders? (file : Window) : Option Headers := do
  let header ← file.slice? 0 56
  let identity ← header.bytes? 12 16
  guard (identity = wideIdentity)
  pure {
    sectionOffset := 56
    sectionCount := ← read header 4 44
    symbolOffset := ← read header 4 48
    symbolCount := ← read header 4 52 }

def headers? (wide : Bool) (file : Window) : Option Headers :=
  if wide then wideHeaders? file else narrowHeaders? file

def read? (wide : Bool) (file : Window) : Option ObjectFile := do
  let h ← headers? wide file
  let headers ← sectionHeaders? file h
  let table ← SymbolTable.read? file .little (symbolSize wide) h.symbolOffset h.symbolCount
  pure (object wide table 0 headers (content file))

/-- The first two bytes of a file for each machine that is known. -/
def machines : List (UInt8 × UInt8) :=
  [(0xc0, 0x01), (0xc4, 0x01), (0x64, 0xaa), (0x41, 0xa6), (0x4e, 0xa6), (0x4c, 0x01), (0x64, 0x86)]

end CallSite.Coff
