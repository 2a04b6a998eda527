/-!
# Identifiers in mangled names

An identifier with characters outside ASCII is written in Punycode: its ASCII characters, and then
where the others are to be inserted.
-/

namespace CallSite.Demangle

structure Ident where
  ascii : List Char
  /-- Empty for identifiers in ASCII alone. -/
  punycode : List Char

namespace Ident

def isEmpty (ident : Ident) : Bool :=
  ident.ascii.isEmpty && ident.punycode.isEmpty

def base : Nat := 36

def digit? (c : Char) : Option Nat :=
  if 'a' ≤ c ∧ c ≤ 'z' then some (c.toNat - 97)
  else if c.isDigit then some (c.toNat - 22)
  else none

/-- The weight limit of the digit at some place, counted in multiples of the base from one on. -/
def threshold (bias k : Nat) : Nat :=
  min (max (base * k - bias) 1) 26

/-- A number of digits of growing weight; the first one below its limit ends it. -/
def delta? (bias : Nat) : Nat → Nat → Nat → List Char → Option (Nat × List Char)
  | _, _, _, [] => none
  | sum, weight, k, c :: cs => do
      let d ← digit? c
      let sum := sum + d * weight
      guard (sum < UInt64.size)
      let t := threshold bias k
      if d < t then pure (sum, cs)
      else do
        let weight := weight * (base - t)
        guard (weight < UInt64.size)
        delta? bias sum weight (k + 1) cs

/-- Divides until the number is small, and counts how often. -/
def reduce : Nat → Nat → Nat → Nat × Nat
  | 0, delta, k => (delta, k)
  | fuel + 1, delta, k => if 455 < delta then reduce fuel (delta / 35) (k + base) else (delta, k)

/-- The bias for the next number, by the size of the last one. -/
def adapt (delta damp length : Nat) : Nat :=
  let delta := delta / damp
  let delta := delta + delta / length
  let (delta, k) := reduce 64 delta 0
  k + 36 * delta / (delta + 38)

/-- The longest identifier that is decoded. -/
def decodeLimit : Nat := 128

/-- Inserts characters as long as there are numbers that tell where and which. -/
def insertAll (bias damp code : Nat) :
    Nat → Nat → List Char → List Char → Option (List Char)
  | 0, _, _, _ => none
  | fuel + 1, place, found, cs => do
      let (delta, cs) ← delta? bias 0 1 1 cs
      let length := found.length + 1
      let total := place + delta
      guard (total < UInt64.size)
      let code := code + total / length
      guard (code.isValidChar)
      guard (length ≤ decodeLimit)
      let place := total % length
      let found := found.take place ++ Char.ofNat code :: found.drop place
      if cs.isEmpty then pure found
      else insertAll (adapt delta damp length) 2 code fuel (place + 1) found cs

/-- The characters of an identifier in Punycode, if it is well formed and not too long. -/
def decode? (ident : Ident) : Option (List Char) := do
  guard (!ident.punycode.isEmpty && ident.ascii.length ≤ decodeLimit)
  insertAll 72 700 0x80 (ident.punycode.length + 1) 0 ident.ascii ident.punycode

/-- The characters one by one, or the Punycode as it stands. -/
def pieces (ident : Ident) : List String :=
  match ident.decode? with
  | some cs => cs.map String.singleton
  | none =>
      if ident.punycode.isEmpty then [String.ofList ident.ascii]
      else
        let ascii := if ident.ascii.isEmpty then [] else [String.ofList ident.ascii, "-"]
        ["punycode\x7b"] ++ ascii ++ [String.ofList ident.punycode, "\x7d"]

end Ident

end CallSite.Demangle
