import CallSite.Bytes

/-!
# Windows

A window is a stretch of a byte array, as files and their sections are read: at given places, or
from the front on.
-/

namespace CallSite

/-- The order in which the bytes of a number stand. -/
inductive ByteOrder where
  | little
  | big
deriving DecidableEq

def ByteOrder.number (order : ByteOrder) (bs : Bytes) : Nat :=
  match order with
  | .little => Bytes.ofLittleEndian bs
  | .big => Bytes.ofBigEndian bs

structure Window where
  data : ByteArray
  start : Nat
  stop : Nat

namespace Window

def ofArray (data : ByteArray) : Window := ⟨data, 0, data.size⟩

def ofBytes (bs : Bytes) : Window := ofArray ⟨bs.toArray⟩

def empty : Window := ofArray .empty

def size (w : Window) : Nat := w.stop - w.start

def isEmpty (w : Window) : Bool := w.stop ≤ w.start

/-- The byte at a place counted from the start of the array. -/
def byteAt (w : Window) (i : Nat) : UInt8 := w.data.data.getD i 0

def bytesFrom (w : Window) (i : Nat) : Nat → Bytes
  | 0 => []
  | n + 1 => w.byteAt i :: w.bytesFrom (i + 1) n

def toBytes (w : Window) : Bytes := w.bytesFrom w.start w.size

def toArray (w : Window) : Array UInt8 := w.data.data.extract w.start w.stop

def slice? (w : Window) (offset n : Nat) : Option Window :=
  if offset + n ≤ w.size then some ⟨w.data, w.start + offset, w.start + offset + n⟩ else none

/-- The window without its first `n` bytes, if it has that many. -/
def drop? (w : Window) (n : Nat) : Option Window :=
  if n ≤ w.size then some { w with start := w.start + n } else none

def bytes? (w : Window) (offset n : Nat) : Option Bytes :=
  (w.slice? offset n).map toBytes

def number? (w : Window) (order : ByteOrder) (width offset : Nat) : Option Nat :=
  (w.bytes? offset width).map order.number

/-- `n` entries of one size, if the window is long enough from an offset on. -/
def entries? (w : Window) (offset entrySize n : Nat) : Option (List Window) := do
  let table ← w.slice? offset (entrySize * n)
  pure ((List.range n).map fun i =>
    { table with start := table.start + i * entrySize, stop := table.start + (i + 1) * entrySize })

def countToZero (w : Window) (i : Nat) : Nat → Option Nat
  | 0 => none
  | n + 1 => if w.byteAt i = 0 then some 0 else (w.countToZero (i + 1) n).map (· + 1)

/-- The bytes before the first zero byte, and the window after it. -/
def text? (w : Window) : Option (Bytes × Window) :=
  (w.countToZero w.start w.size).map fun n =>
    (w.bytesFrom w.start n, { w with start := w.start + n + 1 })

/-- The text at an offset, up to a zero byte. -/
def textAt? (w : Window) (offset : Nat) : Option Bytes := do
  let rest ← w.drop? offset
  let (text, _) ← rest.text?
  pure text

end Window

end CallSite
