import CallSite.Object.Basic

/-!
# Mach-O files
-/

namespace CallSite.MachO

def layout? (file : Window) : Option ObjectLayout := do
  match ← file.bytes? 0 4 with
  | [0xfe, 0xed, 0xfa, 0xce] => pure ⟨false, .big⟩
  | [0xce, 0xfa, 0xed, 0xfe] => pure ⟨false, .little⟩
  | [0xfe, 0xed, 0xfa, 0xcf] => pure ⟨true, .big⟩
  | [0xcf, 0xfa, 0xed, 0xfe] => pure ⟨true, .little⟩
  | _ => none

structure Command where
  kind : Nat
  window : Window

/-- The commands up to the first that is not whole. -/
def commands (l : ObjectLayout) : Nat → Window → List Command
  | 0, _ => []
  | n + 1, w =>
      let command := do
        let kind ← l.read w 4 0
        let size ← l.read w 4 4
        guard (8 ≤ size)
        let window ← w.slice? 0 size
        let rest ← w.drop? size
        pure (Command.mk kind window, rest)
      match command with
      | none => []
      | some (command, rest) => command :: commands l n rest

/-- A section with what tells whether its symbols are code. -/
structure Section extends ObjectSection where
  isText : Bool

/-- Sections of these kinds take no room in the file. -/
def isZeroFilled (flags : Nat) : Bool :=
  let kind := flags % 256
  kind = 1 || kind = 0xc || kind = 0x12

def sectionAt? (l : ObjectLayout) (file w : Window) : Option Section := do
  let name := (← w.bytes? 0 16).beforeZero
  let segment := (← w.bytes? 16 16).beforeZero
  let size ← l.read w l.word (l.pick 36 40)
  let offset ← l.read w 4 (l.pick 40 48)
  let flags ← l.read w 4 (l.pick 56 64)
  let content :=
    if isZeroFilled flags then .plain .empty
    else ((file.slice? offset size).map .plain).getD .unreadable
  pure ⟨⟨name, content⟩, segment = Bytes.ofText "__TEXT" && name = Bytes.ofText "__text"⟩

/-- The sections that a segment command holds. -/
def segmentSections? (l : ObjectLayout) (file : Window) (command : Command) : Option (List Section) := do
  let headerSize := l.pick 56 72
  let count ← l.read command.window 4 (l.pick 48 64)
  let _ ← command.window.slice? 0 headerSize
  let windows ← command.window.entries? headerSize (l.pick 68 80) count
  windows.mapM (sectionAt? l file)

/-- An entry of the symbol table before the sections are known. -/
structure Entry where
  index : Nat
  name : Option String
  kind : Nat
  place : Nat
  value : Nat

def entry? (l : ObjectLayout) (strings : Option Window) (index : Nat) (w : Window) : Option Entry := do
  let name ← l.read w 4 0
  pure {
    index := index
    name := (nameAt? strings name).bind Bytes.toText?
    kind := ← l.read w 1 4
    place := ← l.read w 1 5
    value := ← l.read w l.word 8 }

def entries? (l : ObjectLayout) (file : Window) (command : Command) : Option (List Entry) := do
  let w := command.window
  let symbolOffset ← l.read w 4 8
  let count ← l.read w 4 12
  let stringOffset ← l.read w 4 16
  let stringSize ← l.read w 4 20
  let windows ← file.entries? symbolOffset (l.pick 12 16) count
  let strings := file.slice? stringOffset stringSize
  windows.zipIdx.mapM fun (w, i) => entry? l strings i w

/-- What the commands say; of several symbol tables the last one counts. -/
structure Content where
  sections : List Section
  entries : List Entry

def content? (l : ObjectLayout) (file : Window) (found : Content) : List Command → Option Content
  | [] => some found
  | command :: rest => do
      let found ←
        if command.kind = l.pick 0x1 0x19 then do
          let sections ← segmentSections? l file command
          pure { found with sections := found.sections ++ sections }
        else if command.kind = 2 then do
          let entries ← entries? l file command
          pure { found with entries }
        else pure found
      content? l file found rest

/-- Entries for debuggers are no symbols; code is what lies in the section of code. -/
def symbol? (sections : List Section) (e : Entry) : Option ObjectSymbol :=
  if e.kind &&& 0xe0 ≠ 0 then none
  else
    let inSection := e.kind &&& 0x0e = 0x0e
    let isText := e.place ≠ 0 && (sections[e.place - 1]?).any (·.isText)
    some ⟨e.index, e.name, UInt64.ofNat e.value, inSection && isText⟩

/-- A dot at the front may be written as two underscores, in sixteen bytes at most. -/
def spellings (name : String) : List (List Bytes) :=
  let plain := Bytes.ofText name
  match plain with
  | 0x2e :: rest => [[plain, Bytes.ofText "__" ++ rest.take 14]]
  | _ => [[plain]]

def read? (file : Window) : Option ObjectFile := do
  let l ← layout? file
  let headerSize := l.pick 28 32
  let _ ← file.slice? 0 headerSize
  let commandCount ← l.read file 4 16
  let commandSize ← l.read file 4 20
  let found ← match file.slice? headerSize commandSize with
    | none => pure ⟨[], []⟩
    | some w => content? l file ⟨[], []⟩ (commands l commandCount w)
  pure ⟨l.order, found.sections.map (·.toObjectSection), spellings,
    found.entries.filterMap (symbol? found.sections), []⟩

end CallSite.MachO
