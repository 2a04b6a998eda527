import CallSite.Atlas.NamePool
import CallSite.Atlas.SymbolIndex
import CallSite.Atlas.Track

/-!
# The atlas of a module

An atlas holds the symbols of a module, the marks along its code and the names that the marks refer
to. It answers where in the source a call site lies.
-/

namespace CallSite

/-- A line of a source file. -/
structure Position where
  line : UInt32
  file : String
deriving DecidableEq

def Position.text (p : Position) : String :=
  p.file ++ ": line " ++ toString p.line.toNat

structure Atlas where
  symbols : SymbolIndex
  track : Track
  pool : NamePool
deriving DecidableEq

namespace Atlas

def empty : Atlas := ⟨.empty, .empty, .empty⟩

def isEmpty (atlas : Atlas) : Bool :=
  atlas.symbols.size = 0 && atlas.track.size = 0 && atlas.pool.size = 0

/-- Empties the three tables, before they are filled anew. -/
def clear (atlas : Atlas) : Atlas :=
  ⟨atlas.symbols.clear, atlas.track.clear, atlas.pool.clear⟩

/-- A table that is emptied keeps nothing, not even that its marks were out of order. -/
@[simp]
theorem clear_eq (atlas : Atlas) : atlas.clear = empty :=
  rfl

/-- The atlas with a symbol in it, and the symbol that had its identifier before. -/
def addSymbol (atlas : Atlas) (s : Symbol) : Atlas × Option Symbol :=
  let (symbols, replaced) := atlas.symbols.insert s
  ({ atlas with symbols }, replaced)

/-- The atlas with a mark at its end; the file name is interned before the object name. -/
def addMark (atlas : Atlas) (line : UInt32) (address : Address) (file object : String) :
    Atlas × Mark :=
  let (pool, fileIndex) := atlas.pool.add file
  let (pool, objectIndex) := pool.add object
  let m : Mark := ⟨address, line, fileIndex, objectIndex⟩
  ({ atlas with track := atlas.track.push m, pool }, m)

def file (atlas : Atlas) (m : Mark) : String :=
  atlas.pool.get m.file

def object (atlas : Atlas) (m : Mark) : String :=
  atlas.pool.get m.object

/--
The position of a call site. There is none for an unknown symbol or offset, for a target that is no
address, and for one that lies below every mark.
-/
def locate (atlas : Atlas) (id : SymbolId) (offset : Int64) : Option Position := do
  let s ← atlas.symbols.get? id
  guard (offset ≠ unknownOffset)
  let target ← s.address.shift? offset
  let m ← atlas.track.floor target
  pure ⟨m.line, atlas.file m⟩

end Atlas

end CallSite
