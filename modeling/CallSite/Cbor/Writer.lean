import CallSite.Bytes

/-!
# Writing CBOR

Definite lengths, and every number in the fewest bytes.
-/

namespace CallSite.Cbor

/-- The kinds of items that a first byte tells apart. -/
inductive Major where
  | positive
  | negative
  | bytes
  | text
  | array
  | map
  | tag
  | other
deriving DecidableEq

def Major.code : Major → Nat
  | .positive => 0
  | .negative => 1
  | .bytes => 2
  | .text => 3
  | .array => 4
  | .map => 5
  | .tag => 6
  | .other => 7

def firstByte (major : Major) (argument : Nat) : UInt8 :=
  UInt8.ofNat (major.code * 32 + argument)

def head (major : Major) (n : Nat) : Bytes :=
  if n < 24 then [firstByte major n]
  else if n < UInt8.size then firstByte major 24 :: Bytes.bigEndian 1 n
  else if n < UInt16.size then firstByte major 25 :: Bytes.bigEndian 2 n
  else if n < UInt32.size then firstByte major 26 :: Bytes.bigEndian 4 n
  else firstByte major 27 :: Bytes.bigEndian 8 n

def natural (n : Nat) : Bytes :=
  head .positive n

def integer : Int → Bytes
  | .ofNat n => head .positive n
  | .negSucc n => head .negative n

def text (s : String) : Bytes :=
  let content := Bytes.ofText s
  head .text content.length ++ content

def array (items : List Bytes) : Bytes :=
  head .array items.length ++ items.flatten

def map (entries : List (String × Bytes)) : Bytes :=
  head .map entries.length ++ entries.flatMap fun (key, value) => text key ++ value

end CallSite.Cbor
