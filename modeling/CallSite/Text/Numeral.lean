/-!
# Numerals and columns

Hexadecimal numerals in both cases of letter, and text padded to the width of a column.
-/

namespace CallSite.Text

/-- Pads on the left with `c` up to `width` characters. -/
def padLeft (c : Char) (width : Nat) (s : String) : String :=
  String.ofList (List.replicate (width - s.length) c) ++ s

/-- Pads on the right with blanks up to `width` characters. -/
def padRight (width : Nat) (s : String) : String :=
  s ++ String.ofList (List.replicate (width - s.length) ' ')

def lowerHex (n : Nat) : String :=
  String.ofList (Nat.toDigits 16 n)

def upperHex (n : Nat) : String :=
  String.ofList ((Nat.toDigits 16 n).map Char.toUpper)

/-- A number in decimal digits alone, without sign or blanks. -/
def decimal? (cs : List Char) : Option Nat :=
  if cs.isEmpty || !cs.all Char.isDigit then none
  else some (cs.foldl (fun n c => n * 10 + (c.toNat - '0'.toNat)) 0)

end CallSite.Text
