/-!
# The block cipher

AES with a key of 256 bits in cipher block chaining, on byte strings padded to whole blocks. The
cipher is a chain of invertible steps on a block of four columns; each step stands beside its
inverse.
-/

namespace CallSite.Cipher

structure Column where
  x0 : UInt8
  x1 : UInt8
  x2 : UInt8
  x3 : UInt8
deriving DecidableEq

structure Block where
  c0 : Column
  c1 : Column
  c2 : Column
  c3 : Column
deriving DecidableEq

/-! ### Steps on bytes and columns -/

def substitution : Array UInt8 :=
  #[
    0x63, 0x7c, 0x77, 0x7b, 0xf2, 0x6b, 0x6f, 0xc5, 0x30, 0x01, 0x67, 0x2b,
    0xfe, 0xd7, 0xab, 0x76, 0xca, 0x82, 0xc9, 0x7d, 0xfa, 0x59, 0x47, 0xf0,
    0xad, 0xd4, 0xa2, 0xaf, 0x9c, 0xa4, 0x72, 0xc0, 0xb7, 0xfd, 0x93, 0x26,
    0x36, 0x3f, 0xf7, 0xcc, 0x34, 0xa5, 0xe5, 0xf1, 0x71, 0xd8, 0x31, 0x15,
    0x04, 0xc7, 0x23, 0xc3, 0x18, 0x96, 0x05, 0x9a, 0x07, 0x12, 0x80, 0xe2,
    0xeb, 0x27, 0xb2, 0x75, 0x09, 0x83, 0x2c, 0x1a, 0x1b, 0x6e, 0x5a, 0xa0,
    0x52, 0x3b, 0xd6, 0xb3, 0x29, 0xe3, 0x2f, 0x84, 0x53, 0xd1, 0x00, 0xed,
    0x20, 0xfc, 0xb1, 0x5b, 0x6a, 0xcb, 0xbe, 0x39, 0x4a, 0x4c, 0x58, 0xcf,
    0xd0, 0xef, 0xaa, 0xfb, 0x43, 0x4d, 0x33, 0x85, 0x45, 0xf9, 0x02, 0x7f,
    0x50, 0x3c, 0x9f, 0xa8, 0x51, 0xa3, 0x40, 0x8f, 0x92, 0x9d, 0x38, 0xf5,
    0xbc, 0xb6, 0xda, 0x21, 0x10, 0xff, 0xf3, 0xd2, 0xcd, 0x0c, 0x13, 0xec,
    0x5f, 0x97, 0x44, 0x17, 0xc4, 0xa7, 0x7e, 0x3d, 0x64, 0x5d, 0x19, 0x73,
    0x60, 0x81, 0x4f, 0xdc, 0x22, 0x2a, 0x90, 0x88, 0x46, 0xee, 0xb8, 0x14,
    0xde, 0x5e, 0x0b, 0xdb, 0xe0, 0x32, 0x3a, 0x0a, 0x49, 0x06, 0x24, 0x5c,
    0xc2, 0xd3, 0xac, 0x62, 0x91, 0x95, 0xe4, 0x79, 0xe7, 0xc8, 0x37, 0x6d,
    0x8d, 0xd5, 0x4e, 0xa9, 0x6c, 0x56, 0xf4, 0xea, 0x65, 0x7a, 0xae, 0x08,
    0xba, 0x78, 0x25, 0x2e, 0x1c, 0xa6, 0xb4, 0xc6, 0xe8, 0xdd, 0x74, 0x1f,
    0x4b, 0xbd, 0x8b, 0x8a, 0x70, 0x3e, 0xb5, 0x66, 0x48, 0x03, 0xf6, 0x0e,
    0x61, 0x35, 0x57, 0xb9, 0x86, 0xc1, 0x1d, 0x9e, 0xe1, 0xf8, 0x98, 0x11,
    0x69, 0xd9, 0x8e, 0x94, 0x9b, 0x1e, 0x87, 0xe9, 0xce, 0x55, 0x28, 0xdf,
    0x8c, 0xa1, 0x89, 0x0d, 0xbf, 0xe6, 0x42, 0x68, 0x41, 0x99, 0x2d, 0x0f,
    0xb0, 0x54, 0xbb, 0x16]

def inverseSubstitution : Array UInt8 :=
  #[
    0x52, 0x09, 0x6a, 0xd5, 0x30, 0x36, 0xa5, 0x38, 0xbf, 0x40, 0xa3, 0x9e,
    0x81, 0xf3, 0xd7, 0xfb, 0x7c, 0xe3, 0x39, 0x82, 0x9b, 0x2f, 0xff, 0x87,
    0x34, 0x8e, 0x43, 0x44, 0xc4, 0xde, 0xe9, 0xcb, 0x54, 0x7b, 0x94, 0x32,
    0xa6, 0xc2, 0x23, 0x3d, 0xee, 0x4c, 0x95, 0x0b, 0x42, 0xfa, 0xc3, 0x4e,
    0x08, 0x2e, 0xa1, 0x66, 0x28, 0xd9, 0x24, 0xb2, 0x76, 0x5b, 0xa2, 0x49,
    0x6d, 0x8b, 0xd1, 0x25, 0x72, 0xf8, 0xf6, 0x64, 0x86, 0x68, 0x98, 0x16,
    0xd4, 0xa4, 0x5c, 0xcc, 0x5d, 0x65, 0xb6, 0x92, 0x6c, 0x70, 0x48, 0x50,
    0xfd, 0xed, 0xb9, 0xda, 0x5e, 0x15, 0x46, 0x57, 0xa7, 0x8d, 0x9d, 0x84,
    0x90, 0xd8, 0xab, 0x00, 0x8c, 0xbc, 0xd3, 0x0a, 0xf7, 0xe4, 0x58, 0x05,
    0xb8, 0xb3, 0x45, 0x06, 0xd0, 0x2c, 0x1e, 0x8f, 0xca, 0x3f, 0x0f, 0x02,
    0xc1, 0xaf, 0xbd, 0x03, 0x01, 0x13, 0x8a, 0x6b, 0x3a, 0x91, 0x11, 0x41,
    0x4f, 0x67, 0xdc, 0xea, 0x97, 0xf2, 0xcf, 0xce, 0xf0, 0xb4, 0xe6, 0x73,
    0x96, 0xac, 0x74, 0x22, 0xe7, 0xad, 0x35, 0x85, 0xe2, 0xf9, 0x37, 0xe8,
    0x1c, 0x75, 0xdf, 0x6e, 0x47, 0xf1, 0x1a, 0x71, 0x1d, 0x29, 0xc5, 0x89,
    0x6f, 0xb7, 0x62, 0x0e, 0xaa, 0x18, 0xbe, 0x1b, 0xfc, 0x56, 0x3e, 0x4b,
    0xc6, 0xd2, 0x79, 0x20, 0x9a, 0xdb, 0xc0, 0xfe, 0x78, 0xcd, 0x5a, 0xf4,
    0x1f, 0xdd, 0xa8, 0x33, 0x88, 0x07, 0xc7, 0x31, 0xb1, 0x12, 0x10, 0x59,
    0x27, 0x80, 0xec, 0x5f, 0x60, 0x51, 0x7f, 0xa9, 0x19, 0xb5, 0x4a, 0x0d,
    0x2d, 0xe5, 0x7a, 0x9f, 0x93, 0xc9, 0x9c, 0xef, 0xa0, 0xe0, 0x3b, 0x4d,
    0xae, 0x2a, 0xf5, 0xb0, 0xc8, 0xeb, 0xbb, 0x3c, 0x83, 0x53, 0x99, 0x61,
    0x17, 0x2b, 0x04, 0x7e, 0xba, 0x77, 0xd6, 0x26, 0xe1, 0x69, 0x14, 0x63,
    0x55, 0x21, 0x0c, 0x7d]

def substitute (b : UInt8) : UInt8 :=
  substitution.getD b.toNat 0

def unsubstitute (b : UInt8) : UInt8 :=
  inverseSubstitution.getD b.toNat 0

/-- Twice a byte in the field of 256 elements: the bit that falls out comes back as `0x1b`. -/
def double (b : UInt8) : UInt8 :=
  let carry := b >>> 7
  (b <<< 1) ^^^ carry ^^^ (carry <<< 1) ^^^ (carry <<< 3) ^^^ (carry <<< 4)

namespace Column

def zipWith (f : UInt8 → UInt8 → UInt8) (a b : Column) : Column :=
  ⟨f a.x0 b.x0, f a.x1 b.x1, f a.x2 b.x2, f a.x3 b.x3⟩

def map (f : UInt8 → UInt8) (a : Column) : Column :=
  ⟨f a.x0, f a.x1, f a.x2, f a.x3⟩

def xor (a b : Column) : Column :=
  zipWith (· ^^^ ·) a b

/-- Each byte times two, the next one times three, and the other two. -/
def mix (a : Column) : Column :=
  let total := a.x0 ^^^ a.x1 ^^^ a.x2 ^^^ a.x3
  ⟨a.x0 ^^^ total ^^^ double (a.x0 ^^^ a.x1), a.x1 ^^^ total ^^^ double (a.x1 ^^^ a.x2),
    a.x2 ^^^ total ^^^ double (a.x2 ^^^ a.x3), a.x3 ^^^ total ^^^ double (a.x3 ^^^ a.x0)⟩

/-- Mixing four times changes nothing, so three times undoes it. -/
def unmix (a : Column) : Column :=
  a.mix.mix.mix

def rotate (a : Column) : Column :=
  ⟨a.x1, a.x2, a.x3, a.x0⟩

end Column

/-! ### Steps on blocks -/

namespace Block

def zipWith (f : Column → Column → Column) (a b : Block) : Block :=
  ⟨f a.c0 b.c0, f a.c1 b.c1, f a.c2 b.c2, f a.c3 b.c3⟩

def map (f : Column → Column) (a : Block) : Block :=
  ⟨f a.c0, f a.c1, f a.c2, f a.c3⟩

def xor (a b : Block) : Block :=
  zipWith Column.xor a b

/-- Row `i` moves by `i` columns. -/
def shiftRows (a : Block) : Block :=
  ⟨⟨a.c0.x0, a.c1.x1, a.c2.x2, a.c3.x3⟩, ⟨a.c1.x0, a.c2.x1, a.c3.x2, a.c0.x3⟩,
    ⟨a.c2.x0, a.c3.x1, a.c0.x2, a.c1.x3⟩, ⟨a.c3.x0, a.c0.x1, a.c1.x2, a.c2.x3⟩⟩

def unshiftRows (a : Block) : Block :=
  ⟨⟨a.c0.x0, a.c3.x1, a.c2.x2, a.c1.x3⟩, ⟨a.c1.x0, a.c0.x1, a.c3.x2, a.c2.x3⟩,
    ⟨a.c2.x0, a.c1.x1, a.c0.x2, a.c3.x3⟩, ⟨a.c3.x0, a.c2.x1, a.c1.x2, a.c0.x3⟩⟩

/-- Substitution and shift, the part of a round that needs no key. -/
def scramble (a : Block) : Block :=
  (a.map (Column.map substitute)).shiftRows

def unscramble (a : Block) : Block :=
  a.unshiftRows.map (Column.map unsubstitute)

def toBytes (a : Block) : List UInt8 :=
  [a.c0.x0, a.c0.x1, a.c0.x2, a.c0.x3, a.c1.x0, a.c1.x1, a.c1.x2, a.c1.x3,
    a.c2.x0, a.c2.x1, a.c2.x2, a.c2.x3, a.c3.x0, a.c3.x1, a.c3.x2, a.c3.x3]

end Block

/-- The blocks that bytes make up after the ones found, latest first, if nothing is left over. -/
def blocksAfter? (found : List Block) : List UInt8 → Option (List Block)
  | [] => some found.reverse
  | a0 :: a1 :: a2 :: a3 :: b0 :: b1 :: b2 :: b3 :: c0 :: c1 :: c2 :: c3 :: d0 :: d1 :: d2 :: d3 ::
      rest =>
      blocksAfter?
        (⟨⟨a0, a1, a2, a3⟩, ⟨b0, b1, b2, b3⟩, ⟨c0, c1, c2, c3⟩, ⟨d0, d1, d2, d3⟩⟩ :: found) rest
  | _ => none

def blocks? (bs : List UInt8) : Option (List Block) :=
  blocksAfter? [] bs

def ofBlocks (blocks : List Block) : List UInt8 :=
  blocks.flatMap Block.toBytes

/-! ### Keys -/

/-- Two successive round keys. -/
structure KeyPair where
  first : Block
  second : Block

/-- The pair after a pair: each column is the one eight places before, xored with its predecessor. -/
def KeyPair.next (round : UInt8) (k : KeyPair) : KeyPair :=
  let twisted := (k.second.c3.rotate.map substitute).xor ⟨round, 0, 0, 0⟩
  let a0 := k.first.c0.xor twisted
  let a1 := k.first.c1.xor a0
  let a2 := k.first.c2.xor a1
  let a3 := k.first.c3.xor a2
  let b0 := k.second.c0.xor (a3.map substitute)
  let b1 := k.second.c1.xor b0
  let b2 := k.second.c2.xor b1
  let b3 := k.second.c3.xor b2
  ⟨⟨a0, a1, a2, a3⟩, ⟨b0, b1, b2, b3⟩⟩

/-- The round keys of so many pairs. -/
def KeyPair.schedule : Nat → UInt8 → KeyPair → List Block
  | 0, _, _ => []
  | n + 1, round, k => k.first :: k.second :: schedule n (double round) (k.next round)

/-- A first key, and the keys of the rounds. -/
structure RoundKeys where
  initial : Block
  rounds : List Block

/-- The fifteen round keys of fourteen rounds. -/
def RoundKeys.ofPair (k : KeyPair) : RoundKeys where
  initial := k.first
  rounds := ((k.schedule 8 1).drop 1).take 14

/-! ### Blocks and chains -/

/-- The last round does not mix. -/
def encryptRounds : List Block → Block → Block
  | [], b => b
  | [last], b => b.scramble.xor last
  | k :: ks, b => encryptRounds ks ((b.scramble.map Column.mix).xor k)

def decryptRounds : List Block → Block → Block
  | [], b => b
  | [last], b => (b.xor last).unscramble
  | k :: ks, b => (((decryptRounds ks b).xor k).map Column.unmix).unscramble

def encryptBlock (keys : RoundKeys) (b : Block) : Block :=
  encryptRounds keys.rounds (b.xor keys.initial)

def decryptBlock (keys : RoundKeys) (b : Block) : Block :=
  (decryptRounds keys.rounds b).xor keys.initial

/-- Each block is xored with the cipher text before it; `done` is what is written, latest first. -/
def encryptAfter (keys : RoundKeys) (done : List Block) : Block → List Block → List Block
  | _, [] => done.reverse
  | before, b :: rest =>
      let written := encryptBlock keys (b.xor before)
      encryptAfter keys (written :: done) written rest

def encryptChain (keys : RoundKeys) (start : Block) (blocks : List Block) : List Block :=
  encryptAfter keys [] start blocks

def decryptChain (keys : RoundKeys) (start : Block) (blocks : List Block) : List Block :=
  List.zipWith (fun before b => (decryptBlock keys b).xor before) (start :: blocks) blocks

/-! ### Padding -/

/-- As many bytes as a whole block lacks, a whole block if it lacks none, each of that value. -/
def pad (bs : List UInt8) : List UInt8 :=
  let lacking := 16 - bs.length % 16
  bs ++ List.replicate lacking (UInt8.ofNat lacking)

def unpad? (bs : List UInt8) : Option (List UInt8) := do
  let last ← bs.getLast?
  let lacking := last.toNat
  guard (1 ≤ lacking ∧ lacking ≤ 16 ∧ lacking ≤ bs.length)
  let kept := bs.take (bs.length - lacking)
  guard (bs.drop kept.length = List.replicate lacking last)
  pure kept

/-! ### Byte strings -/

/-- What the cipher is set up with. -/
structure Secret where
  key : KeyPair
  start : Block

def encrypt (secret : Secret) (bs : List UInt8) : List UInt8 :=
  match blocks? (pad bs) with
  | some blocks => ofBlocks (encryptChain (.ofPair secret.key) secret.start blocks)
  | none => []

def decrypt? (secret : Secret) (bs : List UInt8) : Option (List UInt8) := do
  let blocks ← blocks? bs
  unpad? (ofBlocks (decryptChain (.ofPair secret.key) secret.start blocks))

end CallSite.Cipher
