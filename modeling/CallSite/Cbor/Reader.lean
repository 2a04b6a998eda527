import CallSite.Cbor.Writer

/-!
# Reading CBOR

Readers take an item from the front of a byte string. Tags before a value are passed over, texts
may come in chunks, and what is not asked for is skipped if it is well formed.
-/

namespace CallSite.Cbor

abbrev Reader := StateT Bytes Option

namespace Reader

def take (n : Nat) : Reader Bytes :=
  fun bs => bs.take? n

def byte : Reader UInt8
  | [] => none
  | b :: bs => some (b, bs)

def bigEndian (width : Nat) : Reader Nat :=
  Bytes.ofBigEndian <$> take width

/-- `n` times, after what is found already, latest first. -/
def timesAfter {α : Type} (r : Reader α) (found : List α) : Nat → Reader (List α)
  | 0 => pure found.reverse
  | n + 1 => do
      let a ← r
      timesAfter r (a :: found) n

def times {α : Type} (r : Reader α) (n : Nat) : Reader (List α) :=
  timesAfter r [] n

def stopByte : UInt8 := 0xff

def untilStopAfter {α : Type} (r : Reader α) (found : List α) : Nat → Reader (List α)
  | 0 => failure
  | fuel + 1 => fun bs =>
      match bs with
      | [] => none
      | b :: rest =>
          if b = stopByte then some (found.reverse, rest)
          else do
            let (a, rest) ← r bs
            untilStopAfter r (a :: found) fuel rest

/-- Again and again up to a stop byte. -/
def untilStop {α : Type} (r : Reader α) : Reader (List α) :=
  fun bs => untilStopAfter r [] bs.length bs

end Reader

/-! ### Heads -/

/-- What the first bytes of an item say; an indefinite size is none. -/
inductive Head where
  | positive (n : Nat)
  | negative (n : Nat)
  | bytes (size : Option Nat)
  | text (size : Option Nat)
  | array (size : Option Nat)
  | map (size : Option Nat)
  | tag (n : Nat)
  | float
  | simple (n : Nat)
  | stop

/-- The argument of a head, none if it is indefinite. -/
def readArgument (minor : Nat) : Reader (Option Nat) :=
  if minor < 24 then pure (some minor)
  else match minor with
    | 24 => some <$> Reader.bigEndian 1
    | 25 => some <$> Reader.bigEndian 2
    | 26 => some <$> Reader.bigEndian 4
    | 27 => some <$> Reader.bigEndian 8
    | 31 => pure none
    | _ => failure

/-- An argument that has to be there. -/
def readNumber (minor : Nat) : Reader Nat := do
  let n ← readArgument minor
  liftM n

def readHead : Reader Head := do
  let b ← Reader.byte
  let minor := b.toNat % 32
  match b.toNat / 32 with
  | 0 => .positive <$> readNumber minor
  | 1 => .negative <$> readNumber minor
  | 2 => .bytes <$> readArgument minor
  | 3 => .text <$> readArgument minor
  | 4 => .array <$> readArgument minor
  | 5 => .map <$> readArgument minor
  | 6 => .tag <$> readNumber minor
  | _ =>
      if minor < 24 then pure (.simple minor)
      else match minor with
        | 24 => .simple <$> Reader.bigEndian 1
        | 25 => (fun _ => .float) <$> Reader.take 2
        | 26 => (fun _ => .float) <$> Reader.take 4
        | 27 => (fun _ => .float) <$> Reader.take 8
        | 31 => pure .stop
        | _ => failure

/-- The tags of arbitrarily large numbers, which stand before their bytes. -/
def isLargeTag (n : Nat) : Bool :=
  n = 2 || n = 3

def readPastTagsFor (stopAt : Nat → Bool) : Nat → Reader Head
  | 0 => failure
  | fuel + 1 => do
      match ← readHead with
      | .tag n => if stopAt n then pure (.tag n) else readPastTagsFor stopAt fuel
      | h => pure h

/-- The next head that is no tag, or one at which to stop. -/
def readPastTags (stopAt : Nat → Bool := fun _ => false) : Reader Head :=
  fun bs => readPastTagsFor stopAt bs.length bs

/-! ### Strings -/

/-- The size of a chunk that a head begins, none if more chunks are nested in it. -/
abbrev ChunkSize := Head → Option (Option Nat)

def byteChunk : ChunkSize
  | .bytes size => some size
  | _ => none

def textChunk : ChunkSize
  | .text size => some size
  | _ => none

/-- Chunks up to the stop of the outermost of `depth + 1` strings. -/
def readChunks (chunk : ChunkSize) : Nat → Nat → List Bytes → Reader (List Bytes)
  | 0, _, _ => failure
  | fuel + 1, depth, found => do
      match ← readHead with
      | .stop =>
          match depth with
          | 0 => pure found.reverse
          | depth + 1 => readChunks chunk fuel depth found
      | h =>
          match chunk h with
          | none => failure
          | some none => readChunks chunk fuel (depth + 1) found
          | some (some n) => do
              let content ← Reader.take n
              readChunks chunk fuel depth (content :: found)

def readSegments (chunk : ChunkSize) : Option Nat → Reader (List Bytes)
  | some n => do
      let content ← Reader.take n
      pure [content]
  | none => fun bs => readChunks chunk bs.length 0 [] bs

/-- The bytes of a string whose head is read. -/
def readBytes (size : Option Nat) : Reader Bytes :=
  List.flatten <$> readSegments byteChunk size

/-- The text of a string whose head is read; every chunk is well formed by itself. -/
def readText (size : Option Nat) : Reader String := do
  let segments ← readSegments textChunk size
  let parts ← liftM (segments.mapM Bytes.toText?)
  pure (String.join parts)

/-! ### Values that are asked for -/

/-- The digits of a large number: at most sixteen bytes after its leading zeros. -/
def readLarge : Reader Nat := do
  match ← readHead with
  | .bytes size =>
      let digits ← readBytes size
      let digits := digits.dropWhile (· = 0)
      guard (digits.length ≤ 16)
      pure (Bytes.ofBigEndian digits)
  | _ => failure

def integerValue : Reader Int := do
  match ← readPastTags isLargeTag with
  | .positive n => pure n
  | .negative n => pure (-1 - n)
  | .tag 2 => (fun n => (n : Int)) <$> readLarge
  | .tag 3 => (fun n => -1 - (n : Int)) <$> readLarge
  | _ => failure

/-- A number from zero to below a bound. -/
def naturalBelow (bound : Nat) : Reader Nat := do
  let n ← integerValue
  guard (0 ≤ n ∧ n < bound)
  pure n.toNat

/-- A number that fits into 32 bits with a sign. -/
def int32 : Reader Int32 := do
  let n ← integerValue
  guard (-0x80000000 ≤ n ∧ n < 0x80000000)
  pure (Int32.ofInt n)

def uint32 : Reader UInt32 :=
  UInt32.ofNat <$> naturalBelow UInt32.size

def uint64 : Reader UInt64 :=
  UInt64.ofNat <$> naturalBelow UInt64.size

def textValue : Reader String := do
  match ← readPastTags with
  | .text size => readText size
  | _ => failure

/-- The longest key that is read. -/
def keyLimit : Nat := 4096

/-- A key of definite length: text, or bytes that spell one; others are no known key. -/
def keyValue : Reader (Option String) := do
  match ← readPastTags with
  | .text (some n) =>
      guard (n ≤ keyLimit)
      let s ← readText (some n)
      pure (some s)
  | .bytes (some n) =>
      guard (n ≤ keyLimit)
      let content ← Reader.take n
      pure content.toText?
  | _ => failure

/-- Items of a size, or up to a stop byte. -/
def readItems {α : Type} (size : Option Nat) (item : Reader α) : Reader (List α) :=
  match size with
  | some n => item.times n
  | none => item.untilStop

/-- A list; an empty byte string stands for the empty one. -/
def listValue {α : Type} (item : Reader α) : Reader (List α) := do
  match ← readPastTags with
  | .array size => readItems size item
  | .bytes size =>
      let content ← readBytes size
      guard content.isEmpty
      pure []
  | _ => failure

/-! ### Values that are not asked for -/

/-- Skips a value; `inner` skips those nested in it, none if they would be too deep. -/
def skipWith (inner : Option (Reader Unit)) : Reader Unit := do
  match ← readHead with
  | .positive _ => pure ()
  | .negative _ => pure ()
  | .float => pure ()
  | .bytes size => discard (readBytes size)
  | .text size => discard (readText size)
  | .array size => do
      let item ← liftM inner
      discard (readItems size item)
  | .map size => do
      let item ← liftM inner
      discard (readItems size (do item; item))
  | .tag n =>
      if isLargeTag n then discard readLarge
      else do
        let item ← liftM inner
        item
  | .simple n => guard (20 ≤ n ∧ n ≤ 23)
  | .stop => failure

/-- Skips a value with at most `depth` levels of nesting. -/
def skip : Nat → Reader Unit
  | 0 => skipWith none
  | depth + 1 => skipWith (some (skip depth))

/-- The entries of a map, each read by its key. -/
def entriesValue {α : Type} (entry : Option String → Reader α) : Reader (List α) := do
  match ← readPastTags with
  | .map size => readItems size (do entry (← keyValue))
  | _ => failure

end CallSite.Cbor
