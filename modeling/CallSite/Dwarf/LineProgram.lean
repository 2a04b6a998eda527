import CallSite.Dwarf.LineTable

/-!
# Line programs

A line program runs on a few registers and gives out rows: the address and the line of the registers
at some points. The rows of a sequence whose address is a tombstone are not given out.
-/

namespace CallSite.Dwarf

inductive Instruction where
  | special (opcode : Nat)
  | copy
  | advanceAddress (operations : Nat)
  | advanceLine (n : Int)
  | setFile (n : Nat)
  | advanceByConstant
  | advanceByFixed (n : Nat)
  | endSequence
  | setAddress (n : Nat)
  | defineFile (file : FileEntry)
  /-- An instruction that changes nothing of what is wanted here. -/
  | nothing

namespace Instruction

/-- An instruction that says its own length; unknown ones are passed over. -/
def scanExtended (t : LineTable) : Scan Instruction := do
  let length ← Scan.unsigned
  let body ← Scan.window length
  let inside : Scan Instruction := do
    match ← Scan.byte with
    | 1 => pure .endSequence
    | 2 => .setAddress <$> t.encoding.address
    | 3 =>
        if t.encoding.version ≤ 4 then do
          let name ← Scan.text
          .defineFile <$> LineTable.oldFile name
        else pure .nothing
    | 4 => do
        let _ ← Scan.unsigned
        pure .nothing
    | _ => pure .nothing
  let (instruction, _) ← liftM (inside.run body)
  pure instruction

/-- An instruction of the standard; of unknown ones the operands are skipped. -/
def scanStandard (t : LineTable) (opcode : Nat) : Scan Instruction :=
  match opcode with
  | 1 => pure .copy
  | 2 => .advanceAddress <$> Scan.unsigned
  | 3 => .advanceLine <$> Scan.signed
  | 4 => .setFile <$> Scan.unsigned
  | 5 => do
      let _ ← Scan.unsigned
      pure .nothing
  | 6 => pure .nothing
  | 7 => pure .nothing
  | 8 => pure .advanceByConstant
  | 9 => .advanceByFixed <$> t.encoding.number 2
  | 10 => pure .nothing
  | 11 => pure .nothing
  | 12 => do
      let _ ← Scan.unsigned
      pure .nothing
  | _ => do
      let count ← liftM t.operandCounts[opcode - 1]?
      let _ ← Scan.times Scan.unsigned count
      pure .nothing

def scan (t : LineTable) : Scan Instruction := do
  let opcode ← Scan.byte
  if opcode = 0 then scanExtended t
  else if t.opcodeBase ≤ opcode then pure (.special opcode)
  else scanStandard t opcode

end Instruction

structure Registers where
  address : Nat
  operation : Nat
  file : Nat
  line : Nat
  tombstone : Bool

namespace Registers

def initial : Registers := ⟨0, 0, 1, 1, false⟩

/-- Lines are 64-bit numbers; going back before the first one gives zero. -/
def advanceLine (r : Registers) (n : Int) : Registers :=
  { r with line := ((r.line : Int) + n).toNat % UInt64.size }

/-- The address moved on, if it still is one. -/
def advanceAddress? (t : LineTable) (r : Registers) (n : Nat) : Option Registers := do
  let address := r.address + n
  guard (address < 1 <<< (8 * t.encoding.addressSize))
  pure { r with address }

/-- Moves on by operations, of which several may make up one step. -/
def advance? (t : LineTable) (r : Registers) (operations : Nat) : Option Registers :=
  if r.tombstone then some r
  else if t.operationsPerStep = 1 then
    { r with operation := 0 }.advanceAddress? t (t.minimumStep * operations % UInt64.size)
  else
    let total := (r.operation + operations) % UInt64.size
    { r with operation := total % t.operationsPerStep }.advanceAddress? t
      (t.minimumStep * (total / t.operationsPerStep) % UInt64.size)

/-- An address before the current one, or one of the last two that there are, stands for code that
was removed. -/
def setAddress (t : LineTable) (r : Registers) (n : Nat) : Registers :=
  if n < r.address ∨ 1 <<< (8 * t.encoding.addressSize) ≤ n + 2 then { r with tombstone := true }
  else { r with address := n, operation := 0, tombstone := false }

end Registers

/-- A row as it is given out; the file is none if the table has no entry for it. -/
structure ProgramRow where
  address : Nat
  line : Nat
  file : Option FileEntry
  endsSequence : Bool

/-- A program in the middle of its run. -/
structure Run where
  table : LineTable
  registers : Registers

namespace Run

def row (run : Run) (endsSequence : Bool) : ProgramRow :=
  ⟨run.registers.address, run.registers.line, run.table.file? run.registers.file, endsSequence⟩

/-- Does an instruction; also says whether it gives out a row, and if so whether that is the last
one of a sequence. -/
def step? (run : Run) (instruction : Instruction) : Option (Run × Option Bool) :=
  let t := run.table
  let r := run.registers
  match instruction with
  | .special opcode => do
      let n := opcode - t.opcodeBase
      let r := r.advanceLine (t.lineBase + (n % t.lineRange : Nat))
      let r ← r.advance? t (n / t.lineRange)
      pure ({ run with registers := r }, some false)
  | .copy => some (run, some false)
  | .advanceAddress operations => do
      let r ← r.advance? t operations
      pure ({ run with registers := r }, none)
  | .advanceLine n => some ({ run with registers := r.advanceLine n }, none)
  | .setFile n => some ({ run with registers := { r with file := n } }, none)
  | .advanceByConstant => do
      let r ← r.advance? t ((255 - t.opcodeBase) / t.lineRange)
      pure ({ run with registers := r }, none)
  | .advanceByFixed n =>
      if r.tombstone then some (run, none)
      else do
        let r ← { r with operation := 0 }.advanceAddress? t n
        pure ({ run with registers := r }, none)
  | .endSequence => some (run, some true)
  | .setAddress n => some ({ run with registers := r.setAddress t n }, none)
  | .defineFile file => some ({ run with table := { t with files := t.files.push file } }, none)
  | .nothing => some (run, none)

/-- The rows after those given out, latest first, and whether the program ran to its end. -/
def rowsAfter (found : List ProgramRow) : Nat → Run → Window → List ProgramRow × Bool
  | 0, _, _ => (found.reverse, false)
  | fuel + 1, run, w =>
      if w.isEmpty then (found.reverse, true)
      else
        match (Instruction.scan run.table).run w with
        | none => (found.reverse, false)
        | some (instruction, w) =>
            match run.step? instruction with
            | none => (found.reverse, false)
            | some (run, none) => rowsAfter found fuel run w
            | some (run, some endsSequence) =>
                let found :=
                  if run.registers.tombstone then found else run.row endsSequence :: found
                let run := if endsSequence then { run with registers := .initial } else run
                rowsAfter found fuel run w

end Run

/-- The rows of a program, and whether it ran to its end. -/
def LineTable.rows (t : LineTable) : List ProgramRow × Bool :=
  Run.rowsAfter [] (t.program.size + 1) ⟨t, .initial⟩ t.program

end CallSite.Dwarf
