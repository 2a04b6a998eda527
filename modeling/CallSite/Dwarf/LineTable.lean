import CallSite.Dwarf.Form

/-!
# Line tables

The header of a line table names the directories and the files and sets the parameters of the
program that follows.
-/

namespace CallSite.Dwarf

structure FileEntry where
  path : AttributeValue
  directory : Nat

structure LineTable where
  encoding : Encoding
  minimumStep : Nat
  operationsPerStep : Nat
  lineBase : Int
  lineRange : Nat
  /-- The first opcode that advances both address and line. -/
  opcodeBase : Nat
  /-- How many operands each opcode below that has. -/
  operandCounts : Array Nat
  directories : Array AttributeValue
  files : Array FileEntry
  program : Window
  unitName : Option Bytes
  unitDirectory : Option Bytes

namespace LineTable

def pathContent : Nat := 1

def directoryContent : Nat := 2

/-- What the entries of a list consist of: exactly one part is the path. -/
def entryFormat : Scan (List (Nat × Nat)) := do
  let n ← Scan.byte
  let parts ← Scan.times (do
    let content ← Scan.unsigned
    let form ← Scan.unsigned16
    pure (content, form)) n
  guard ((parts.filter fun part => part.1 = pathContent).length = 1)
  pure parts

/-- The parts of one entry; a later part of one kind takes the place of an earlier one. -/
def entry (e : Encoding) (format : List (Nat × Nat)) : Scan FileEntry :=
  format.foldlM (fun found (content, form) => do
    let value ← Form.readInTable e form
    if content = pathContent then pure { found with path := value }
    else if content = directoryContent then
      pure { found with directory := value.natural?.getD found.directory }
    else pure found) ⟨.other, 0⟩

def entries (e : Encoding) : Scan (List FileEntry) := do
  let format ← entryFormat
  let n ← Scan.unsigned
  Scan.times (entry e format) n

/-- A file as versions before the fifth write it, after its name. -/
def oldFile (name : Bytes) : Scan FileEntry := do
  let directory ← Scan.unsigned
  let _ ← Scan.unsigned
  let _ ← Scan.unsigned
  pure ⟨.text name, directory⟩

def oldDirectories : Scan (List AttributeValue) :=
  Scan.whileSome do
    let name ← Scan.text
    pure (if name.isEmpty then none else some (.text name))

def oldFiles : Scan (List FileEntry) :=
  Scan.whileSome do
    let name ← Scan.text
    if name.isEmpty then pure none
    else some <$> oldFile name

/-- A byte as a number with a sign. -/
def signedByte (n : Nat) : Int :=
  if n < 128 then n else (n : Int) - 256

/-- A number of operations in one step; only later versions have more than one. -/
def operationCount (version : Nat) : Scan Nat :=
  if 4 ≤ version then Scan.byte else pure 1

/-- The parameters, the directories and the files, up to the end of the header. -/
def scanHeader (e : Encoding) (program : Window) (unitName unitDirectory : Option Bytes) :
    Scan LineTable := do
  let minimumStep ← Scan.byte
  guard (minimumStep ≠ 0)
  let operationsPerStep ← operationCount e.version
  guard (operationsPerStep ≠ 0)
  Scan.skip 1
  let lineBase ← Scan.byte
  let lineRange ← Scan.byte
  guard (lineRange ≠ 0)
  let opcodeBase ← Scan.byte
  guard (opcodeBase ≠ 0)
  let operandCounts ← Scan.times Scan.byte (opcodeBase - 1)
  let (directories, files) ←
    if e.version ≤ 4 then do
      let directories ← oldDirectories
      let files ← oldFiles
      pure (directories, files)
    else do
      let directories ← entries e
      let files ← entries e
      pure (directories.map (·.path), files)
  pure {
    encoding := e
    minimumStep := minimumStep
    operationsPerStep := operationsPerStep
    lineBase := signedByte lineBase
    lineRange := lineRange
    opcodeBase := opcodeBase
    operandCounts := operandCounts.toArray
    directories := directories.toArray
    files := files.toArray
    program := program
    unitName := unitName
    unitDirectory := unitDirectory }

/-- The table at an offset. From the fifth version on it has an address size of its own. -/
def read? (section_ : Window) (offset : Nat) (order : ByteOrder) (unitAddressSize : Nat)
    (unitName unitDirectory : Option Bytes) : Option LineTable := do
  let rest ← section_.drop? offset
  let ((length, wide), rest) ← (initialLength order).run rest
  let (table, _) ← (Scan.window length).run rest
  let scan : Scan (Encoding × Nat) := do
    let version ← Scan.number order 2
    guard (2 ≤ version ∧ version ≤ 5)
    let addressSize ← if version < 5 then pure unitAddressSize else do
      let size ← addressSize
      let selectorSize ← Scan.byte
      guard (selectorSize = 0)
      pure size
    let e : Encoding := ⟨order, wide, version, addressSize⟩
    let headerLength ← e.offset
    pure (e, headerLength)
  let ((e, headerLength), rest) ← scan.run table
  let program ← rest.drop? headerLength
  let header ← rest.slice? 0 headerLength
  let (found, _) ← (scanHeader e program unitName unitDirectory).run header
  pure found

/-- The file of a number. Before the fifth version files are counted from one, and zero is the unit
itself. -/
def file? (t : LineTable) (n : Nat) : Option FileEntry :=
  if 5 ≤ t.encoding.version then t.files[n]?
  else if n = 0 then t.unitName.map fun name => ⟨.text name, 0⟩
  else t.files[n - 1]?

/-- The directory of a number, where zero is the unit's before the fifth version. -/
def directory? (t : LineTable) (n : Nat) : Option AttributeValue :=
  if 5 ≤ t.encoding.version then t.directories[n]?
  else if n = 0 then t.unitDirectory.map .text
  else t.directories[n - 1]?

end LineTable

end CallSite.Dwarf
