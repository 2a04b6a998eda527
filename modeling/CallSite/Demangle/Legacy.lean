import CallSite.Demangle.Output

/-!
# The older scheme of mangled names

Path elements with their lengths before them, between `_ZN` and `E`. The last element is usually a
hash, which is not shown.
-/

namespace CallSite.Demangle.Legacy

/-- The symbol after the mark that it begins with. -/
def afterMark? : List Char → Option (List Char)
  | '_' :: 'Z' :: 'N' :: rest => some rest
  | 'Z' :: 'N' :: rest => some rest
  | '_' :: '_' :: 'Z' :: 'N' :: rest => some rest
  | _ => none

def number (digits : List Char) : Nat :=
  digits.foldl (fun n c => n * 10 + (c.toNat - 48)) 0

/-- The elements up to the letter that ends them, and what comes after it. -/
def elements? : Nat → List (List Char) → List Char → Option (List (List Char) × List Char)
  | 0, _, _ => none
  | fuel + 1, found, cs =>
      match cs with
      | 'E' :: rest => some (found.reverse, rest)
      | _ =>
          let digits := cs.takeWhile Char.isDigit
          let rest := cs.drop digits.length
          let n := number digits
          if digits.isEmpty ∨ UInt64.size ≤ n ∨ rest.length ≤ n then none
          else elements? fuel (rest.take n :: found) (rest.drop n)

def isHexDigit (c : Char) : Bool :=
  c.isDigit || ('a' ≤ c && c ≤ 'f') || ('A' ≤ c && c ≤ 'F')

def isHash : List Char → Bool
  | 'h' :: digits => digits.all isHexDigit
  | _ => false

def hexNumber (digits : List Char) : Nat :=
  digits.foldl (fun n c => n * 16 + (if c.isDigit then c.toNat - 48 else c.toNat - 87)) 0

def isControl (n : Nat) : Bool :=
  n < 0x20 || (0x7f ≤ n && n < 0xa0)

/-- The character of a number in lower-case hexadecimal digits, unless it is a control character. -/
def escapedChar? (digits : List Char) : Option Char := do
  guard (!digits.isEmpty && digits.all fun c => c.isDigit || ('a' ≤ c && c ≤ 'f'))
  let n := hexNumber digits
  guard (n.isValidChar && !isControl n)
  pure (Char.ofNat n)

def escape? (name : List Char) : Option String :=
  match name with
  | ['S', 'P'] => some "@"
  | ['B', 'P'] => some "*"
  | ['R', 'F'] => some "&"
  | ['L', 'T'] => some "<"
  | ['G', 'T'] => some ">"
  | ['L', 'P'] => some "("
  | ['R', 'P'] => some ")"
  | ['C'] => some ","
  | 'u' :: digits => (escapedChar? digits).map fun c => String.singleton c
  | _ => none

/-- The pieces of an element; where an escape is not known, the rest stands as it is. -/
def pieces : Nat → List Char → List String
  | 0, _ => []
  | fuel + 1, cs =>
      match cs with
      | '.' :: '.' :: rest => "::" :: pieces fuel rest
      | '.' :: rest => "." :: pieces fuel rest
      | '$' :: rest =>
          let name := rest.takeWhile (· ≠ '$')
          match rest.drop name.length with
          | [] => [String.ofList cs]
          | _ :: after =>
              match escape? name with
              | some s => s :: pieces fuel after
              | none => [String.ofList cs]
      | _ =>
          let plain := cs.takeWhile fun c => c ≠ '$' && c ≠ '.'
          match cs.drop plain.length with
          | [] => [String.ofList cs]
          | rest => String.ofList plain :: pieces fuel rest

/-- An element without the mark before an escape at its beginning. -/
def elementPieces (element : List Char) : List String :=
  let cs := match element with
    | '_' :: '$' :: rest => '$' :: rest
    | _ => element
  pieces (cs.length + 1) cs

/-- The elements to show: a hash at the end is left out. -/
def shown (elements : List (List Char)) : List (List Char) :=
  match elements.getLast? with
  | some last => if isHash last then elements.dropLast else elements
  | none => []

/-- The pieces of a name in turn, and what stands behind the name. -/
def demangle? (symbol : List Char) : Option (List String × List Char) := do
  let inner ← afterMark? symbol
  guard (inner.all fun c => c.toNat < 128)
  let (elements, rest) ← elements? (inner.length + 1) [] inner
  let parts := (shown elements).mapIdx fun i element =>
    if i = 0 then elementPieces element else "::" :: elementPieces element
  pure (parts.flatten, rest)

/-- The name that the pieces make up. -/
def write (parts : List String) : String :=
  let rec go (out : Output) : List String → String
    | [] => out.text
    | s :: rest =>
        match out.write? s with
        | some out => go out rest
        | none => out.text ++ sizeLimitNote
  go .empty parts

end CallSite.Demangle.Legacy
