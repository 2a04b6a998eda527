/-!
# Byte strings

Blobs, images and trailers are lists of bytes. Numbers stand in them with a fixed width in either
byte order, and text stands in UTF-8.
-/

namespace CallSite

abbrev Bytes := List UInt8

namespace Bytes

/-- The `width` low bytes of a number, least significant first. -/
def littleEndian : Nat → Nat → Bytes
  | 0, _ => []
  | width + 1, n => UInt8.ofNat (n % 256) :: littleEndian width (n / 256)

def ofLittleEndian : Bytes → Nat
  | [] => 0
  | b :: bs => b.toNat + 256 * ofLittleEndian bs

def bigEndian (width n : Nat) : Bytes :=
  (littleEndian width n).reverse

def ofBigEndian (bs : Bytes) : Nat :=
  ofLittleEndian bs.reverse

def ofText (s : String) : Bytes :=
  s.toUTF8.toList

/-- The text that bytes spell, if they are well-formed UTF-8. -/
def toText? (bs : Bytes) : Option String :=
  String.fromUTF8? ⟨bs.toArray⟩

/-- Splits off the first `n` bytes, if there are that many. -/
def take? (n : Nat) (bs : Bytes) : Option (Bytes × Bytes) :=
  let front := bs.take n
  if front.length = n then some (front, bs.drop n) else none

/-- The rest of a byte string after a given beginning. -/
def dropPrefix? : Bytes → Bytes → Option Bytes
  | [], bs => some bs
  | _ :: _, [] => none
  | x :: xs, b :: bs => if x = b then dropPrefix? xs bs else none

@[simp]
theorem length_littleEndian (width n : Nat) : (littleEndian width n).length = width := by
  induction width generalizing n with
  | zero => rfl
  | succ width ih => simp [littleEndian, ih]

end Bytes

end CallSite
