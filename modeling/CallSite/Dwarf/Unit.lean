import CallSite.Dwarf.Abbreviation
import CallSite.Dwarf.LineTable

/-!
# Units

A unit of debug information has a name, a directory and a line table, which its first entry refers
to.
-/

namespace CallSite.Dwarf

/-- The sections of an image that lines are read from. -/
structure DebugSections where
  order : ByteOrder
  abbreviations : Window
  addresses : Window
  info : Window
  lines : Window
  lineStrings : Window
  strings : Window
  stringOffsets : Window

structure UnitHeader where
  encoding : Encoding
  abbreviationOffset : Nat
  entries : Window

namespace UnitHeader

/-- What stands in the header of a unit of some kind, by the size of an offset. -/
def kindSize? (offsetSize : Nat) : Nat → Option Nat
  | 1 => some 0
  | 2 => some (8 + offsetSize)
  | 3 => some 0
  | 4 => some 8
  | 5 => some 8
  | 6 => some (8 + offsetSize)
  | _ => none

/-- A header of versions two to five, and the entries of the unit. -/
def scan (order : ByteOrder) : Scan UnitHeader := do
  let (length, wide) ← initialLength order
  let body ← Scan.window length
  let inside : Scan (Encoding × Nat) := do
    let version ← Scan.number order 2
    guard (2 ≤ version ∧ version ≤ 5)
    let e : Encoding := ⟨order, wide, version, 0⟩
    if version < 5 then do
      let offset ← e.offset
      let size ← addressSize
      pure ({ e with addressSize := size }, offset)
    else do
      let kind ← Scan.byte
      guard (1 ≤ kind ∧ kind ≤ 6)
      let size ← addressSize
      let offset ← e.offset
      Scan.skip (← liftM (kindSize? e.offsetSize kind))
      pure ({ e with addressSize := size }, offset)
  let ((e, offset), entries) ← liftM (inside.run body)
  pure ⟨e, offset, entries⟩

end UnitHeader

structure DebugUnit where
  encoding : Encoding
  name : Option Bytes
  directory : Option Bytes
  stringBase : Nat
  addressBase : Nat
  lines : Option LineTable

namespace DebugUnit

def textIn? (section_ : Window) (offset : Nat) : Option Bytes :=
  section_.textAt? offset

/-- The text that a value stands for. -/
def text? (sections : DebugSections) (e : Encoding) (stringBase : Nat) :
    AttributeValue → Option Bytes
  | .text bytes => some bytes
  | .stringOffset n => textIn? sections.strings n
  | .lineStringOffset n => textIn? sections.lineStrings n
  | .stringIndex i => do
      let n ← sections.stringOffsets.number? sections.order e.offsetSize
        (stringBase + i * e.offsetSize)
      textIn? sections.strings n
  | _ => none

def nameAttribute : Nat := 0x03

def linesAttribute : Nat := 0x10

def lowAddressAttribute : Nat := 0x11

def directoryAttribute : Nat := 0x1b

def stringBaseAttribute : Nat := 0x72

def addressBaseAttribute : Nat := 0x73

/-- The spelling of the same attribute before it was part of the standard. -/
def oldAddressBaseAttribute : Nat := 0x2133

/-- The attributes of the first entry, which may come after empty ones. -/
def firstEntry (e : Encoding) (table : List Abbreviation) :
    Nat → Scan (List (Nat × AttributeValue))
  | 0 => failure
  | fuel + 1 => do
      let code ← Scan.unsigned
      if code = 0 then firstEntry e table fuel
      else do
        let abbreviation ← liftM (table.find? (·.code = code))
        abbreviation.attributes.mapM fun spec => do
          let value ← Form.read e spec.constant spec.form
          pure (spec.name, value)

/-- The last attribute of some name, if a function has a value for it. -/
def last? {α : Type} (attributes : List (Nat × AttributeValue)) (names : List Nat)
    (f : AttributeValue → Option α) : Option α :=
  (attributes.filterMap fun (name, value) =>
    if names.contains name then f value else none).getLast?

/-- An offset into another section. A plain datum of the size of an offset is one where the
attribute cannot be anything else. -/
def offset? (e : Encoding) (plain : Bool) : AttributeValue → Option Nat
  | .sectionOffset n => some n
  | .data width n => if plain && width = e.offsetSize then some n else none
  | _ => none

/-- An address that has to be looked up has to be there. -/
def checkAddress (sections : DebugSections) (e : Encoding) (addressBase : Nat) :
    AttributeValue → Option Unit
  | .addressIndex i => discard
      (sections.addresses.number? sections.order e.addressSize (addressBase + i * e.addressSize))
  | _ => some ()

/-- The unit behind a header. A name or a directory that cannot be found counts as absent. -/
def read? (sections : DebugSections) (h : UnitHeader) : Option DebugUnit := do
  let e := h.encoding
  let table ← Abbreviation.table? sections.abbreviations h.abbreviationOffset
  let (attributes, _) ← (firstEntry e table (h.entries.size + 1)).run h.entries
  let stringBase := (last? attributes [stringBaseAttribute] (offset? e false)).getD 0
  let addressBase :=
    (last? attributes [addressBaseAttribute, oldAddressBaseAttribute] (offset? e false)).getD 0
  let value? name := last? attributes [name] some
  let name := (value? nameAttribute).bind (text? sections e stringBase)
  let directory := (value? directoryAttribute).bind (text? sections e stringBase)
  let lines ← match last? attributes [linesAttribute] (offset? e true) with
    | none => pure none
    | some n => some <$> LineTable.read? sections.lines n sections.order e.addressSize name directory
  match value? lowAddressAttribute with
  | none => pure ()
  | some value => checkAddress sections e addressBase value
  pure ⟨e, name, directory, stringBase, addressBase, lines⟩

end DebugUnit

end CallSite.Dwarf
