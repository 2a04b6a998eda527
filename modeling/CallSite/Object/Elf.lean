import CallSite.Object.Basic

/-!
# ELF files
-/

namespace CallSite.Elf

/-- The layout of a file that begins with the magic number, in the current version. -/
def layout? (file : Window) : Option ObjectLayout := do
  let ident ← file.bytes? 0 16
  match ident with
  | 0x7f :: 0x45 :: 0x4c :: 0x46 :: width :: order :: 1 :: _ =>
      guard (width = 1 ∨ width = 2)
      guard (order = 1 ∨ order = 2)
      pure ⟨width = 2, if order = 1 then .little else .big⟩
  | _ => none

structure FileHeader where
  programOffset : Nat
  sectionOffset : Nat
  programEntrySize : Nat
  programCount : Nat
  sectionEntrySize : Nat
  sectionCount : Nat
  namesIndex : Nat

def fileHeader? (l : ObjectLayout) (file : Window) : Option FileHeader := do
  let header ← file.slice? 0 (l.pick 52 64)
  let counts := l.pick 42 54
  pure {
    programOffset := ← l.read header l.word (l.pick 28 32)
    sectionOffset := ← l.read header l.word (l.pick 32 40)
    programEntrySize := ← l.read header 2 counts
    programCount := ← l.read header 2 (counts + 2)
    sectionEntrySize := ← l.read header 2 (counts + 4)
    sectionCount := ← l.read header 2 (counts + 6)
    namesIndex := ← l.read header 2 (counts + 8) }

structure SectionHeader where
  name : Nat
  kind : Nat
  flags : Nat
  offset : Nat
  size : Nat
  link : Nat
  info : Nat

namespace SectionHeader

def entrySize (l : ObjectLayout) : Nat := l.pick 40 64

def ofWindow? (l : ObjectLayout) (w : Window) : Option SectionHeader := do
  pure {
    name := ← l.read w 4 0
    kind := ← l.read w 4 4
    flags := ← l.read w l.word 8
    offset := ← l.read w l.word (l.pick 16 24)
    size := ← l.read w l.word (l.pick 20 32)
    link := ← l.read w 4 (l.pick 24 40)
    info := ← l.read w 4 (l.pick 28 44) }

/-- Sections of this kind take no room in the file. -/
def hasNoContent (s : SectionHeader) : Bool := s.kind = 8

def window? (file : Window) (s : SectionHeader) : Option Window :=
  if s.hasNoContent then some .empty else file.slice? s.offset s.size

/-- The stretch of a table of texts; it is looked at only when a name is read. -/
def strings (file : Window) (s : SectionHeader) : Option Window :=
  file.slice? s.offset s.size

end SectionHeader

/-- The first section header, which holds the counts that the file header has no room for. -/
def firstSection? (l : ObjectLayout) (file : Window) (h : FileHeader) : Option SectionHeader := do
  guard (h.sectionEntrySize = SectionHeader.entrySize l)
  let w ← file.slice? h.sectionOffset (SectionHeader.entrySize l)
  SectionHeader.ofWindow? l w

/-- Whether the program headers stand in the file; their content is not needed. -/
def checkPrograms (l : ObjectLayout) (file : Window) (h : FileHeader) : Option Unit := do
  if h.programOffset = 0 then return
  let count ← if h.programCount < 0xffff then pure h.programCount else do
    guard (h.sectionOffset ≠ 0)
    let first ← firstSection? l file h
    pure first.info
  if count = 0 then return
  guard (h.programEntrySize = l.pick 32 56)
  let _ ← file.slice? h.programOffset (h.programEntrySize * count)

def sectionHeaders? (l : ObjectLayout) (file : Window) (h : FileHeader) :
    Option (List SectionHeader) := do
  if h.sectionOffset = 0 then return []
  let count ← if h.sectionCount ≠ 0 then pure h.sectionCount else do
    let first ← firstSection? l file h
    pure first.size
  if count = 0 then return []
  guard (h.sectionEntrySize = SectionHeader.entrySize l)
  let windows ← file.entries? h.sectionOffset h.sectionEntrySize count
  windows.mapM (SectionHeader.ofWindow? l)

/-- The table of section names, which has to exist as soon as there are sections. -/
def sectionNames? (l : ObjectLayout) (file : Window) (h : FileHeader) (headers : List SectionHeader) :
    Option (Option Window) := do
  if headers.isEmpty then return none
  let index ← if h.namesIndex ≠ 0xffff then pure h.namesIndex else do
    let first ← firstSection? l file h
    pure first.link
  guard (index ≠ 0)
  let header ← headers[index]?
  if header.hasNoContent then return none
  pure (header.strings file)

/-! ### Sections -/

def zlibKind : Nat := 1

/-- The mark at the front of sections compressed in the old way. -/
def oldMark : Bytes := [0x5a, 0x4c, 0x49, 0x42, 0, 0, 0, 0]

def oldNameStart : Bytes := Bytes.ofText ".zdebug_"

def flaggedContent? (l : ObjectLayout) (file : Window) (s : SectionHeader) : Option SectionContent := do
  guard (!s.hasNoContent)
  let headerSize := l.pick 12 24
  let header ← file.slice? s.offset headerSize
  guard (headerSize ≤ s.size)
  let rest ← file.slice? (s.offset + headerSize) (s.size - headerSize)
  guard ((← l.read header 4 0) = zlibKind)
  pure (.zlib (← l.read header l.word (l.pick 4 8)) rest)

def oldContent? (file : Window) (s : SectionHeader) : Option SectionContent := do
  guard (!s.hasNoContent)
  let mark ← file.bytes? s.offset 8
  guard (mark = oldMark)
  let size ← file.number? .big 4 (s.offset + 8)
  guard (12 ≤ s.size)
  let rest ← file.slice? (s.offset + 12) (s.size - 12)
  pure (.zlib size rest)

def content (l : ObjectLayout) (file : Window) (name : Bytes) (s : SectionHeader) : SectionContent :=
  let found :=
    if s.flags.testBit 11 then flaggedContent? l file s
    else if oldNameStart.isPrefixOf name then oldContent? file s
    else (s.window? file).map .plain
  found.getD .unreadable

/-- A section of debug information may stand under its own name or under the old one. -/
def spellings (name : String) : List (List Bytes) :=
  let plain := Bytes.ofText name
  match Bytes.dropPrefix? (Bytes.ofText ".debug_") plain with
  | some rest => [[plain], [oldNameStart ++ rest]]
  | none => [[plain]]

/-! ### Symbols -/

def symbolSize (l : ObjectLayout) : Nat := l.pick 16 24

/-- Functions that lie in a section; indirect ones do not count, nor do reserved places other than
the one that says that the number of the section stands elsewhere. -/
def isFunction (info place : Nat) : Bool :=
  info % 16 = 2 && place ≠ 0 && (decide (place < 0xff00) || place = 0xffff)

def symbol? (l : ObjectLayout) (strings : Option Window) (index : Nat) (w : Window) :
    Option ObjectSymbol := do
  let name ← l.read w 4 0
  let info ← l.read w 1 (l.pick 12 4)
  let place ← l.read w 2 (l.pick 14 6)
  let value ← l.read w l.word (l.pick 4 8)
  pure {
    index := index
    name := (nameAt? strings name).bind Bytes.toText?
    address := UInt64.ofNat value
    isFunction := isFunction info place }

/-- The first table of a kind with the place of its section, empty if there is none. The entry at
the front of a table stands for no symbol. -/
def symbolTable? (l : ObjectLayout) (file : Window) (headers : List SectionHeader) (kind : Nat) :
    Option (Nat × List ObjectSymbol) :=
  match headers.findIdx? (·.kind = kind) with
  | none => some (0, [])
  | some place => do
      let header ← headers[place]?
      let content ← header.window? file
      let windows ← content.entries? 0 (symbolSize l) (content.size / symbolSize l)
      let strings ← if header.link = 0 then pure none else do
        let table ← headers[header.link]?
        guard (table.kind = 3)
        pure (table.strings file)
      for s in headers do
        if s.kind = 18 ∧ s.link = place then
          let _ ← s.window? file
      let symbols ← windows.zipIdx.mapM fun (w, i) => symbol? l strings i w
      pure (place, symbols.drop 1)

def isRelocation (s : SectionHeader) : Bool :=
  s.kind = 4 || s.kind = 9

/-- Relocations for the symbol table have to belong to a section that holds none itself. -/
def checkRelocations (headers : List SectionHeader) (symbolPlace : Nat) : Option Unit :=
  headers.forM fun s => do
    if isRelocation s ∧ s.link = symbolPlace ∧ s.info ≠ 0 then
      let target ← headers[s.info]?
      guard (!isRelocation target)

def read? (file : Window) : Option ObjectFile := do
  let l ← layout? file
  let h ← fileHeader? l file
  checkPrograms l file h
  let headers ← sectionHeaders? l file h
  let names ← sectionNames? l file h headers
  let (place, symbols) ← symbolTable? l file headers 2
  let (_, dynamicSymbols) ← symbolTable? l file headers 11
  checkRelocations headers place
  let sections := headers.filterMap fun s =>
    (nameAt? names s.name).map fun name => ⟨name, content l file name s⟩
  pure ⟨l.order, sections, spellings, symbols, dynamicSymbols⟩

end CallSite.Elf
