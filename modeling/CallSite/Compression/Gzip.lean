import CallSite.Compression.Deflate

/-!
# Gzip members

A gzip member is a header, a deflate stream and a trailer with the checksum and the length of the
content. Reading takes one member and leaves what comes after it.
-/

namespace CallSite.Gzip

/-- One bit of the cyclic redundancy check, with the reversed polynomial. -/
def checksumBit (crc : UInt32) : UInt32 :=
  if crc &&& 1 = 1 then (crc >>> 1) ^^^ 0xedb88320 else crc >>> 1

def checksumByte (crc : UInt32) (b : UInt8) : UInt32 :=
  (List.range 8).foldl (fun crc _ => checksumBit crc) (crc ^^^ b.toUInt32)

def checksum (bs : Bytes) : UInt32 :=
  bs.foldl checksumByte 0xffffffff ^^^ 0xffffffff

/-- Deflate, no flags, no time of change, of unknown origin. -/
def plainHeader : Bytes :=
  [0x1f, 0x8b, 8, 0, 0, 0, 0, 0, 0, 0xff]

/-- The member of a content with its bytes as they are. Shorter members of the same content, which
read the same, are left to better compressors. -/
def compress (content : Bytes) : Bytes :=
  plainHeader ++ Deflate.deflateStored content ++
    Bytes.littleEndian 4 (checksum content).toNat ++ Bytes.littleEndian 4 content.length

/-- The longest text in a header that is read. -/
def textLimit : Nat := 65535

/-- Skips a text that ends in a zero byte. -/
def skipText? (bs : Bytes) : Option Bytes :=
  let text := bs.takeWhile (· ≠ 0)
  match bs.drop text.length with
  | [] => none
  | _ :: rest => if text.length ≤ textLimit then some rest else none

/-- Skips an extra field after its size. -/
def skipExtra? (bs : Bytes) : Option Bytes := do
  let (size, rest) ← bs.take? 2
  let (_, rest) ← rest.take? (Bytes.ofLittleEndian size)
  pure rest

/-- Skips the checksum of the header, which is all of a byte string that stands before it. -/
def skipCheck? (whole rest : Bytes) : Option Bytes := do
  let header := whole.take (whole.length - rest.length)
  let (check, rest) ← rest.take? 2
  guard (Bytes.ofLittleEndian check = (checksum header).toNat % UInt16.size)
  pure rest

def flagged (flags : UInt8) (bit : Nat) : Bool :=
  flags.toNat.testBit bit

def skipIf (asked : Bool) (skip : Bytes → Option Bytes) (bs : Bytes) : Option Bytes :=
  if asked then skip bs else some bs

/-- The bytes after a header: extra field, file name, comment and header checksum are skipped. -/
def skipHeader? (bs : Bytes) : Option Bytes := do
  let (fixed, rest) ← bs.take? 10
  guard (fixed.take 3 = [0x1f, 0x8b, 8])
  let flags := fixed.getD 3 0
  guard (flags.toNat < 32)
  let rest ← skipIf (flagged flags 2) skipExtra? rest
  let rest ← skipIf (flagged flags 3) skipText? rest
  let rest ← skipIf (flagged flags 4) skipText? rest
  skipIf (flagged flags 1) (skipCheck? bs) rest

/-- The content of the first member. -/
def decompress? (bs : Bytes) : Option Bytes := do
  let rest ← skipHeader? bs
  let (output, rest) ← (Deflate.inflate none rest).toOption
  let content := output.toList
  let (check, rest) ← rest.take? 4
  let (size, _) ← rest.take? 4
  guard (Bytes.ofLittleEndian check = (checksum content).toNat)
  guard (Bytes.ofLittleEndian size = content.length % UInt32.size)
  pure content

end CallSite.Gzip
