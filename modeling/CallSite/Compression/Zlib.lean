import CallSite.Compression.Deflate

/-!
# Zlib streams of known size
-/

namespace CallSite.Zlib

/-- The largest prime below `2 ^ 16`. -/
def checksumModulus : Nat := 65521

def checksum (bs : Array UInt8) : Nat :=
  let (a, b) := bs.foldl (fun (a, b) x =>
    let a := (a + x.toNat) % checksumModulus
    (a, (b + a) % checksumModulus)) (1, 0)
  b * UInt16.size + a

/--
The content of a stream that is known to have a size. Content of that size is taken also from a
stream that goes on or breaks off, but one that ends has to have the right checksum.
-/
def decompress? (size : Nat) (bs : Bytes) : Option (Array UInt8) := do
  let (header, rest) ← bs.take? 2
  let head := Bytes.ofBigEndian header
  guard (head % 31 = 0 ∧ head / 256 % 16 = 8 ∧ head / 4096 ≤ 7 ∧ head / 32 % 2 = 0)
  let output ← match Deflate.inflate (some size) rest with
    | .ok (output, rest) =>
        match rest.take? 4 with
        | some (check, _) =>
            if Bytes.ofBigEndian check = checksum output then some output else none
        | none => some output
    | .error .corrupt => none
    | .error (.truncated output) => some output
    | .error (.full output) => some output
  guard (output.size = size)
  pure output

end CallSite.Zlib
