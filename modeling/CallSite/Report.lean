import CallSite.Atlas.Basic

/-!
# The readable report

Three tables of an atlas: its symbols by qualified name, its marks by file, line and address, and
its names by index.
-/

namespace CallSite.Report

/-- The object that the first mark at an address belongs to, empty where no mark begins. -/
def objectAt (atlas : Atlas) (address : Address) : String :=
  match atlas.track.marks.toList.find? (·.address = address) with
  | some m => atlas.object m
  | none => ""

def qualifiedName (atlas : Atlas) (s : Symbol) : String :=
  let object := objectAt atlas s.address
  if object.isEmpty then s.name else object ++ "." ++ s.name

/-- Symbols with their qualified names, ordered by these and then by identifier. -/
def symbolRows (atlas : Atlas) : List (String × Symbol) :=
  (atlas.symbols.entries.map fun s => (qualifiedName atlas s, s)).mergeSort
    fun a b => decide (a.1 ≤ b.1)

/-- File first, then line, then address. -/
def marksInOrder (atlas : Atlas) (a b : Mark) : Bool :=
  let fileA := atlas.file a
  let fileB := atlas.file b
  if fileA = fileB then
    if a.line = b.line then decide (a.address ≤ b.address) else decide (a.line ≤ b.line)
  else decide (fileA ≤ fileB)

def sortedMarks (atlas : Atlas) : List Mark :=
  atlas.track.marks.toList.mergeSort (marksInOrder atlas)

/--
Each mark with the symbol that is current at its row: the one that begins at its address, or else
the one that was current at the row before.
-/
def withOwners (symbols : SymbolIndex) : Option Symbol → List Mark → List (Mark × Option Symbol)
  | _, [] => []
  | current, m :: rest =>
      let owner := (symbols.at? m.address).or current
      (m, owner) :: withOwners symbols owner rest

def heading (title : String) (columns underlines : String) : List String :=
  let rule := "========"
  [rule, title ++ ":", rule, columns, underlines]

/-- A row of columns, the last one as wide as it is. -/
def row (cells : List (Nat × String)) (last : String) : String :=
  "   " ++ String.join (cells.map fun (width, cell) => Text.padRight width cell ++ "  ") ++ last

def symbolLines (atlas : Atlas) : List String :=
  heading "SYMBOLS" (row [(10, "Token"), (10, "Address")] "Symbol  ")
      (row [(10, "-----"), (10, "-------")] "------  ") ++
    (symbolRows atlas).map fun (name, s) =>
      row [(10, s.id.text), (10, toString s.address.value.toNat)] name

def markLines (atlas : Atlas) : List String :=
  heading "LINE NUMBERS"
      (row [(10, "Address"), (11, "Line number"), (10, "Token")] "Symbol/FileName")
      (row [(10, "-------"), (11, "-----------"), (10, "-----")] "---------------") ++
    (withOwners atlas.symbols none (sortedMarks atlas)).map fun (m, owner) =>
      let token := match owner with
        | some s => s.id.text
        | none => "0"
      let place := atlas.file m ++ ":" ++ atlas.object m
      let name := match owner with
        | some s => place ++ "." ++ s.name
        | none => place
      row [(10, toString m.address.value.toNat), (11, toString m.line.toNat), (10, token)] name

def nameLines (atlas : Atlas) : List String :=
  heading "NAMES" (row [(10, "Index")] "Name") (row [(10, "-----")] "----") ++
    atlas.pool.names.mapIdx fun i name => row [(10, toString i)] name

def lines (atlas : Atlas) : List String :=
  symbolLines atlas ++ markLines atlas ++ nameLines atlas

def render (atlas : Atlas) : String :=
  String.join ((lines atlas).map (· ++ "\n"))

end CallSite.Report
