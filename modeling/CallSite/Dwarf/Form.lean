import CallSite.Dwarf.Scan

/-!
# Forms of attribute values

The form of an attribute tells how its value is written. Only values are told apart that names,
addresses and offsets are found by.
-/

namespace CallSite.Dwarf

/-- What the size of a value can depend on. -/
structure Encoding where
  order : ByteOrder
  /-- Offsets have eight bytes and not four. -/
  wide : Bool
  version : Nat
  addressSize : Nat

namespace Encoding

def offsetSize (e : Encoding) : Nat := if e.wide then 8 else 4

def number (e : Encoding) (width : Nat) : Scan Nat := Scan.number e.order width

def offset (e : Encoding) : Scan Nat := e.number e.offsetSize

def address (e : Encoding) : Scan Nat := e.number e.addressSize

end Encoding

/-- A length, and whether offsets are eight bytes wide after it; some values are reserved. -/
def initialLength (order : ByteOrder) : Scan (Nat × Bool) := do
  let n ← Scan.number order 4
  if n < 0xfffffff0 then pure (n, false)
  else do
    guard (n = 0xffffffff)
    let n ← Scan.number order 8
    pure (n, true)

def addressSize : Scan Nat := do
  let n ← Scan.byte
  guard (n = 1 ∨ n = 2 ∨ n = 4 ∨ n = 8)
  pure n

inductive Form where
  | address
  | blockOf (width : Nat)
  | block
  | expression
  | data (width : Nat)
  | data16
  | unsigned
  | signed
  | flag
  | present
  | sectionOffset
  | reference (width : Nat)
  | referenceUnsigned
  | referenceAddress
  | referenceElsewhere
  | string
  | stringOffset
  | stringElsewhere
  | lineStringOffset
  | stringIndex
  | stringIndexOf (width : Nat)
  | addressIndex
  | addressIndexOf (width : Nat)
  | listIndex
  | constant
  | indirect

def Form.ofCode? : Nat → Option Form
  | 0x01 => some .address
  | 0x03 => some (.blockOf 2)
  | 0x04 => some (.blockOf 4)
  | 0x05 => some (.data 2)
  | 0x06 => some (.data 4)
  | 0x07 => some (.data 8)
  | 0x08 => some .string
  | 0x09 => some .block
  | 0x0a => some (.blockOf 1)
  | 0x0b => some (.data 1)
  | 0x0c => some .flag
  | 0x0d => some .signed
  | 0x0e => some .stringOffset
  | 0x0f => some .unsigned
  | 0x10 => some .referenceAddress
  | 0x11 => some (.reference 1)
  | 0x12 => some (.reference 2)
  | 0x13 => some (.reference 4)
  | 0x14 => some (.reference 8)
  | 0x15 => some .referenceUnsigned
  | 0x16 => some .indirect
  | 0x17 => some .sectionOffset
  | 0x18 => some .expression
  | 0x19 => some .present
  | 0x1a => some .stringIndex
  | 0x1b => some .addressIndex
  | 0x1c => some (.reference 4)
  | 0x1d => some .stringElsewhere
  | 0x1e => some .data16
  | 0x1f => some .lineStringOffset
  | 0x20 => some (.reference 8)
  | 0x21 => some .constant
  | 0x22 => some .listIndex
  | 0x23 => some .listIndex
  | 0x24 => some (.reference 8)
  | 0x25 => some (.stringIndexOf 1)
  | 0x26 => some (.stringIndexOf 2)
  | 0x27 => some (.stringIndexOf 3)
  | 0x28 => some (.stringIndexOf 4)
  | 0x29 => some (.addressIndexOf 1)
  | 0x2a => some (.addressIndexOf 2)
  | 0x2b => some (.addressIndexOf 3)
  | 0x2c => some (.addressIndexOf 4)
  | 0x1f01 => some .addressIndex
  | 0x1f02 => some .stringIndex
  | 0x1f20 => some .referenceElsewhere
  | 0x1f21 => some .stringElsewhere
  | _ => none

inductive AttributeValue where
  | text (bytes : Bytes)
  | stringOffset (n : Nat)
  | lineStringOffset (n : Nat)
  | stringIndex (n : Nat)
  | sectionOffset (n : Nat)
  | address (n : Nat)
  | addressIndex (n : Nat)
  | data (width n : Nat)
  | number (n : Int)
  | other

/-- The value as a number that has no sign. -/
def AttributeValue.natural? : AttributeValue → Option Nat
  | .data _ n => some n
  | .number n => if 0 ≤ n then some n.toNat else none
  | _ => none

namespace Form

/-- Values that units and line tables have in common. -/
def readCommon (e : Encoding) : Form → Option (Scan AttributeValue)
  | .blockOf width => some do
      Scan.skip (← e.number width)
      pure .other
  | .block => some do
      Scan.skip (← Scan.unsigned)
      pure .other
  | .data width => some do
      let n ← e.number width
      pure (.data width n)
  | .data16 => some do
      Scan.skip 16
      pure .other
  | .unsigned => some do
      let n ← Scan.unsigned
      pure (.number n)
  | .signed => some (.number <$> Scan.signed)
  | .flag => some do
      Scan.skip 1
      pure .other
  | .sectionOffset => some (.sectionOffset <$> e.offset)
  | .string => some (.text <$> Scan.text)
  | .stringOffset => some (.stringOffset <$> e.offset)
  | .stringElsewhere => some do
      Scan.skip e.offsetSize
      pure .other
  | .lineStringOffset => some (.lineStringOffset <$> e.offset)
  | .stringIndex => some (.stringIndex <$> Scan.unsigned)
  | .stringIndexOf width => some (.stringIndex <$> e.number width)
  | _ => none

/-- Values of units; `given` is the one that stands beside the form. -/
def readDirect (e : Encoding) (given : Option Int) (form : Form) : Scan AttributeValue :=
  match readCommon e form with
  | some scan => scan
  | none =>
      match form with
      | .address => .address <$> e.address
      | .present => pure .other
      | .expression => do
          Scan.skip (← Scan.unsigned)
          pure .other
      | .reference width => do
          Scan.skip width
          pure .other
      | .referenceUnsigned | .listIndex => do
          let _ ← Scan.unsigned
          pure .other
      | .referenceAddress => do
          Scan.skip (if e.version = 2 then e.addressSize else e.offsetSize)
          pure .other
      | .referenceElsewhere => do
          Scan.skip e.offsetSize
          pure .other
      | .addressIndex => .addressIndex <$> Scan.unsigned
      | .addressIndexOf width => .addressIndex <$> e.number width
      | .constant => .number <$> liftM given
      | _ => failure

/-- A value whose form may stand before it, even more than once. -/
def readFollowing (e : Encoding) : Nat → Option Int → Nat → Scan AttributeValue
  | 0, _, _ => failure
  | fuel + 1, given, code => do
      match ← liftM (ofCode? code) with
      | .indirect => do
          let code ← Scan.unsigned16
          readFollowing e fuel given code
      | form => readDirect e given form

def read (e : Encoding) (given : Option Int) (code : Nat) : Scan AttributeValue := fun w =>
  readFollowing e (w.size + 1) given code w

/-- A value in a line table, where fewer forms are allowed. -/
def readInTable (e : Encoding) (code : Nat) : Scan AttributeValue := do
  let form ← liftM (ofCode? code)
  let scan ← liftM (readCommon e form)
  scan

end Form

end CallSite.Dwarf
