/-!
# Interned names

Marks refer to file and object names by their position in a pool. A name that is added again keeps
the position it has, so positions stay valid as the pool grows.
-/

namespace CallSite

/-- A position in a pool, as a signed 32-bit number. -/
abbrev NameIndex := Int32

structure NamePool where
  names : List String
deriving DecidableEq

namespace NamePool

def empty : NamePool := ⟨[]⟩

def size (pool : NamePool) : Nat :=
  pool.names.length

/-- The greatest index stands for every position from `2 ^ 31 - 1` on. -/
def indexOf (position : Nat) : NameIndex :=
  if position < 0x80000000 then Int32.ofNat position else Int32.maxValue

/-- The pool with a name in it, and the index of the first place where the name stands. -/
def add (pool : NamePool) (name : String) : NamePool × NameIndex :=
  match pool.names.findIdx? (· == name) with
  | some position => (pool, indexOf position)
  | none => (⟨pool.names ++ [name]⟩, indexOf pool.size)

def clear (_ : NamePool) : NamePool :=
  ⟨[]⟩

/-- The name at an index, empty where there is none. -/
def get (pool : NamePool) (index : NameIndex) : String :=
  if 0 ≤ index.toInt then pool.names.getD index.toInt.toNat "" else ""

end NamePool

end CallSite
