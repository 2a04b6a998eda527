import CallSite.Bytes

/-!
# Deflate

Decompression of the deflate format, and compression by stored blocks, which the format admits for
any content.
-/

namespace CallSite.Deflate

/-! ### Bits -/

/-- Bytes of which some bits of one byte are already taken; the low bits come first. -/
structure BitStream where
  rest : Bytes
  held : Nat
  count : Nat

namespace BitStream

def ofBytes (bs : Bytes) : BitStream := ⟨bs, 0, 0⟩

def bit? (s : BitStream) : Option (Nat × BitStream) :=
  if s.count = 0 then
    match s.rest with
    | [] => none
    | b :: rest => some (b.toNat % 2, ⟨rest, b.toNat / 2, 7⟩)
  else some (s.held % 2, ⟨s.rest, s.held / 2, s.count - 1⟩)

/-- A number of `n` bits, the lowest first. -/
def bits? : Nat → BitStream → Option (Nat × BitStream)
  | 0, s => some (0, s)
  | n + 1, s => do
      let (low, s) ← s.bit?
      let (high, s) ← bits? n s
      pure (low + 2 * high, s)

end BitStream

/-! ### Prefix codes -/

/-- How many codes there are of each length from one on, and the symbols in the order of codes. -/
structure Code where
  counts : List Nat
  symbols : Array Nat

namespace Code

def maxLength : Nat := 15

/-- The canonical code in which symbol `i` has the `i`-th length, zero for no code. -/
def ofLengths (lengths : List Nat) : Code :=
  let sizes := (List.range maxLength).map (· + 1)
  { counts := sizes.map fun size => lengths.countP (· = size)
    symbols := (sizes.flatMap fun size =>
      lengths.zipIdx.filterMap fun (n, symbol) => if n = size then some symbol else none).toArray }

/-- The share of all bit strings of the greatest length that the codes cover, out of `2 ^ 15`. -/
def coverage (code : Code) : Nat :=
  code.counts.zipIdx.foldl (fun total (n, i) => total + n <<< (maxLength - 1 - i)) 0

def complete (code : Code) : Bool :=
  code.coverage = 1 <<< maxLength

/-- A code that leaves bit strings unused is admitted only for at most one symbol. -/
def usable (code : Code) : Bool :=
  code.complete || decide (code.symbols.size ≤ 1)

/-- What the bits of a stream say. -/
inductive Reading where
  | symbol (value : Nat) (rest : BitStream)
  | unknown
  | ended

/-- Reads bit by bit: `first` is the first code of the current length, `index` its symbol's place. -/
def readFrom (symbols : Array Nat) : List Nat → Nat → Nat → Nat → BitStream → Reading
  | [], _, _, _, _ => .unknown
  | n :: counts, value, first, index, s =>
      match s.bit? with
      | none => .ended
      | some (b, s) =>
          let value := 2 * value + b
          let first := 2 * first
          if value < first + n then .symbol (symbols.getD (index + (value - first)) 0) s
          else readFrom symbols counts value (first + n) (index + n) s

def read (code : Code) (s : BitStream) : Reading :=
  readFrom code.symbols code.counts 0 0 0 s

end Code

/-! ### Blocks -/

/-- Why decompression ended before the end of the stream, with what had come out of it. -/
inductive Halt where
  | corrupt
  | truncated (output : Array UInt8)
  | full (output : Array UInt8)

/-- The output so far, and how much of it there may be. -/
structure Sink where
  output : Array UInt8
  limit : Option Nat

namespace Sink

def push (sink : Sink) (b : UInt8) : Except Halt Sink :=
  if sink.limit.any fun limit => decide (limit ≤ sink.output.size) then
    .error (.full sink.output)
  else .ok { sink with output := sink.output.push b }

/-- Repeats bytes from a distance back, which may overlap what it writes. -/
def repeatBack (distance : Nat) : Nat → Sink → Except Halt Sink
  | 0, sink => .ok sink
  | n + 1, sink => do
      let b := sink.output.getD (sink.output.size - distance) 0
      repeatBack distance n (← sink.push b)

def pushAll : Bytes → Sink → Except Halt Sink
  | [], sink => .ok sink
  | b :: bs, sink => do pushAll bs (← sink.push b)

def take {α : Type} (sink : Sink) (read : Option α) : Except Halt α :=
  match read with
  | some a => .ok a
  | none => .error (.truncated sink.output)

end Sink

def lengthBases : Array Nat :=
  #[3, 4, 5, 6, 7, 8, 9, 10, 11, 13, 15, 17, 19, 23, 27, 31, 35, 43, 51, 59, 67, 83, 99, 115, 131,
    163, 195, 227, 258]

def lengthExtras : Array Nat :=
  #[0, 0, 0, 0, 0, 0, 0, 0, 1, 1, 1, 1, 2, 2, 2, 2, 3, 3, 3, 3, 4, 4, 4, 4, 5, 5, 5, 5, 0]

def distanceBases : Array Nat :=
  #[1, 2, 3, 4, 5, 7, 9, 13, 17, 25, 33, 49, 65, 97, 129, 193, 257, 385, 513, 769, 1025, 1537, 2049,
    3073, 4097, 6145, 8193, 12289, 16385, 24577]

def distanceExtras : Array Nat :=
  #[0, 0, 0, 0, 1, 1, 2, 2, 3, 3, 4, 4, 5, 5, 6, 6, 7, 7, 8, 8, 9, 9, 10, 10, 11, 11, 12, 12, 13,
    13]

/-- A base from one table and as many more bits as the other one says. -/
def extended (bases extras : Array Nat) (symbol : Nat) (sink : Sink) (s : BitStream) :
    Except Halt (Nat × BitStream) := do
  if h : symbol < bases.size then
    let (more, s) ← sink.take (s.bits? (extras.getD symbol 0))
    pure (bases[symbol] + more, s)
  else throw .corrupt

/-- Literals and repetitions up to the end of a block; each one takes a bit of fuel at least. -/
def readSymbols (literals distances : Code) :
    Nat → BitStream → Sink → Except Halt (BitStream × Sink)
  | 0, _, sink => .error (.truncated sink.output)
  | fuel + 1, s, sink =>
      match literals.read s with
      | .unknown => .error .corrupt
      | .ended => .error (.truncated sink.output)
      | .symbol value s =>
          if value < 256 then do
            readSymbols literals distances fuel s (← sink.push (UInt8.ofNat value))
          else if value = 256 then .ok (s, sink)
          else do
            let (length, s) ← extended lengthBases lengthExtras (value - 257) sink s
            match distances.read s with
            | .unknown => .error .corrupt
            | .ended => .error (.truncated sink.output)
            | .symbol value s => do
                let (distance, s) ← extended distanceBases distanceExtras value sink s
                if sink.output.size < distance then throw .corrupt
                readSymbols literals distances fuel s (← sink.repeatBack distance length)

def fixedLiterals : Code :=
  .ofLengths (List.replicate 144 8 ++ List.replicate 112 9 ++ List.replicate 24 7 ++
    List.replicate 8 8)

def fixedDistances : Code :=
  .ofLengths (List.replicate 32 5)

/-- The order in which the lengths of the code for lengths are written. -/
def lengthOrder : List Nat :=
  [16, 17, 18, 0, 8, 7, 9, 6, 10, 5, 11, 4, 12, 3, 13, 2, 14, 1, 15]

/-- `n` numbers of three bits. -/
def readTriples (sink : Sink) : Nat → BitStream → Except Halt (List Nat × BitStream)
  | 0, s => .ok ([], s)
  | n + 1, s => do
      let (x, s) ← sink.take (s.bits? 3)
      let (xs, s) ← readTriples sink n s
      pure (x :: xs, s)

/-- Code lengths, latest first, until there are `total` of them. -/
def readLengths (code : Code) (total : Nat) (sink : Sink) :
    Nat → BitStream → List Nat → Except Halt (List Nat × BitStream)
  | 0, _, _ => .error .corrupt
  | fuel + 1, s, found =>
      if found.length = total then .ok (found.reverse, s)
      else if total < found.length then .error .corrupt
      else
        match code.read s with
        | .unknown => .error .corrupt
        | .ended => .error (.truncated sink.output)
        | .symbol value s =>
            if value < 16 then readLengths code total sink fuel s (value :: found)
            else if value = 16 then
              match found with
              | [] => .error .corrupt
              | last :: _ => do
                  let (n, s) ← sink.take (s.bits? 2)
                  readLengths code total sink fuel s (List.replicate (n + 3) last ++ found)
            else if value = 17 then do
              let (n, s) ← sink.take (s.bits? 3)
              readLengths code total sink fuel s (List.replicate (n + 3) 0 ++ found)
            else do
              let (n, s) ← sink.take (s.bits? 7)
              readLengths code total sink fuel s (List.replicate (n + 11) 0 ++ found)

/-- The two codes of a block that brings its own. -/
def readCodes (sink : Sink) (s : BitStream) : Except Halt (Code × Code × BitStream) := do
  let (literalCount, s) ← sink.take (s.bits? 5)
  let (distanceCount, s) ← sink.take (s.bits? 5)
  let (lengthCount, s) ← sink.take (s.bits? 4)
  let literalCount := literalCount + 257
  let distanceCount := distanceCount + 1
  if 286 < literalCount ∨ 30 < distanceCount then throw .corrupt
  let (triples, s) ← readTriples sink (lengthCount + 4) s
  let placed := lengthOrder.zip triples
  let lengthCode := Code.ofLengths ((List.range 19).map fun i => (placed.lookup i).getD 0)
  if !lengthCode.complete then throw .corrupt
  let total := literalCount + distanceCount
  let (lengths, s) ← readLengths lengthCode total sink (total + 1) s []
  let literals := Code.ofLengths (lengths.take literalCount)
  let distances := Code.ofLengths (lengths.drop literalCount)
  if !literals.usable || !distances.usable then throw .corrupt
  pure (literals, distances, s)

/-- A stored block: after the rest of the current byte its length, that again inverted, its bytes. -/
def readStored (s : BitStream) (sink : Sink) : Except Halt (BitStream × Sink) := do
  let (size, rest) ← sink.take (Bytes.take? 2 s.rest)
  let (check, rest) ← sink.take (Bytes.take? 2 rest)
  let size := Bytes.ofLittleEndian size
  if size + Bytes.ofLittleEndian check ≠ 0xffff then throw .corrupt
  let sink ← sink.pushAll (rest.take size)
  if rest.length < size then throw (.truncated sink.output)
  pure (.ofBytes (rest.drop size), sink)

def readBlocks : Nat → BitStream → Sink → Except Halt (BitStream × Sink)
  | 0, _, sink => .error (.truncated sink.output)
  | fuel + 1, s, sink => do
      let (final, s) ← sink.take (s.bits? 1)
      let (kind, s) ← sink.take (s.bits? 2)
      let bound := 8 * (s.rest.length + 1)
      let (s, sink) ← match kind with
        | 0 => readStored s sink
        | 1 => readSymbols fixedLiterals fixedDistances bound s sink
        | 2 => do
            let (literals, distances, s) ← readCodes sink s
            readSymbols literals distances bound s sink
        | _ => throw .corrupt
      if final = 1 then pure (s, sink) else readBlocks fuel s sink

/--
The content of a deflate stream and the bytes after it. With a limit, the stream is left as soon as
it would give more.
-/
def inflate (limit : Option Nat) (bs : Bytes) : Except Halt (Array UInt8 × Bytes) := do
  let (s, sink) ← readBlocks (8 * bs.length + 1) (.ofBytes bs) ⟨#[], limit⟩
  pure (sink.output, s.rest)

/-! ### Stored blocks -/

def storedBlock (final : Bool) (content : Bytes) : Bytes :=
  (if final then 1 else 0) :: Bytes.littleEndian 2 content.length ++
    Bytes.littleEndian 2 (0xffff - content.length) ++ content

/-- As many stored blocks of the greatest size as the content needs. -/
def deflateStored (content : Bytes) : Bytes :=
  if content.length ≤ 0xffff then storedBlock true content
  else storedBlock false (content.take 0xffff) ++ deflateStored (content.drop 0xffff)
termination_by content.length
decreasing_by simp; omega

end CallSite.Deflate
