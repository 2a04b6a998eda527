import CallSite.Dwarf.LineProgram
import CallSite.Dwarf.Unit
import CallSite.Feed
import CallSite.SourcePath
import CallSite.Text.Lossy

/-!
# Listing the rows of an image

The rows of all units, those of no use left out, in the order of their addresses. A row whose file
is not known is told of and left out; it costs no other row.
-/

namespace CallSite.Dwarf

/-- What the file of a row came to. -/
inductive RowFile where
  | missing
  | unreadable
  | path (text : String)
deriving DecidableEq

/-- A row of a unit; the line is zero where no source line belongs to the code. -/
structure UnitRow where
  address : UInt64
  line : UInt64
  file : RowFile
  endsSequence : Bool
deriving DecidableEq

/-- The rows that a unit gives out, up to its end or to a fault. -/
structure UnitRows where
  container : String
  rows : List UnitRow
  complete : Bool

/-! ### Units as they are delivered -/

/-- The path of a file in its directory; a directory that is not there counts as unnamed. -/
def filePath? (sections : DebugSections) (u : DebugUnit) (t : LineTable) (file : FileEntry) :
    Option String := do
  let text value := (DebugUnit.text? sections u.encoding u.stringBase value).map Text.lossy
  let name ← text file.path
  if SourcePath.isAbsolute name then return name
  let dir ← match t.directory? file.directory with
    | some value => text value
    | none => pure ""
  pure (SourcePath.join dir name)

def rowFile (sections : DebugSections) (u : DebugUnit) (t : LineTable) :
    Option FileEntry → RowFile
  | none => .missing
  | some file =>
      match filePath? sections u t file with
      | some path => .path path
      | none => .unreadable

def UnitRows.ofUnit (sections : DebugSections) (u : DebugUnit) : Option UnitRows :=
  u.lines.map fun t =>
    let (rows, complete) := t.rows
    { container := ((u.name).map Text.lossy).getD ""
      rows := rows.map fun row => ⟨UInt64.ofNat row.address, UInt64.ofNat row.line,
        rowFile sections u t row.file, row.endsSequence⟩
      complete := complete }

/-- The units of an image in their order, and where reading them ended, if not at their end. -/
structure Units where
  units : List UnitRows
  fault : Option FeedFault

def headerFault : FeedFault := .debugInfo "reading unit header: not a unit header"

def unitFault : FeedFault := .debugInfo "parsing unit: not a unit"

def rowFault : FeedFault := .debugInfo "reading line row: not a line program"

def unitsAfter (sections : DebugSections) (found : List UnitRows) : Nat → Window → Units
  | 0, _ => ⟨found.reverse, some headerFault⟩
  | fuel + 1, w =>
      if w.isEmpty then ⟨found.reverse, none⟩
      else
        match (UnitHeader.scan sections.order).run w with
        | none => ⟨found.reverse, some headerFault⟩
        | some (header, w) =>
            match DebugUnit.read? sections header with
            | none => ⟨found.reverse, some unitFault⟩
            | some u =>
                match UnitRows.ofUnit sections u with
                | none => unitsAfter sections found fuel w
                | some rows =>
                    if rows.complete then unitsAfter sections (rows :: found) fuel w
                    else ⟨(rows :: found).reverse, some rowFault⟩

def units (sections : DebugSections) : Units :=
  unitsAfter sections [] (sections.info.size + 1) sections.info

/-! ### Rows that are kept -/

def pathFault : FeedFault := .debugInfo "resolving DWARF string: not a string"

/-- What becomes of a row: it is kept, told of, or neither. -/
def UnitRow.deliver (container : String) (row : UnitRow) : Option (Delivery FeedRow) :=
  if row.endsSequence || row.line = 0 then none
  else
    match row.file with
    | .missing => some (.note (.rowWithoutFile row.address row.line))
    | .unreadable => some (.note (.rowSkipped row.address row.line pathFault))
    | .path path => some (.item ⟨⟨row.address⟩, row.line, path, container⟩)

/-- What becomes of all rows, in the order of units and of their rows. -/
def deliveries (us : List UnitRows) : List (Delivery FeedRow) :=
  us.flatMap fun u => u.rows.filterMap (UnitRow.deliver u.container)

def Units.kept (us : Units) : List FeedRow :=
  (Enumeration.mk (deliveries us.units) none).items

def Units.told (us : Units) : List Event :=
  (deliveries us.units).filterMap fun
    | .item _ => none
    | .note event => some event

/-- Rows of equal address stay in their order. -/
def byAddress (rows : List FeedRow) : List FeedRow :=
  rows.mergeSort fun a b => decide (a.address ≤ b.address)

/-- What was left out is told before any row is delivered; after a fault none is. -/
def Units.listing (us : Units) : Enumeration FeedRow :=
  match us.fault with
  | some fault => ⟨us.told.map .note, some fault⟩
  | none =>
      ⟨(us.told ++ [Event.rowsListed us.kept.length]).map .note ++ (byAddress us.kept).map .item, none⟩

end CallSite.Dwarf
