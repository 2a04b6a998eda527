import CallSite.Demangle.Legacy
import CallSite.Demangle.V0

/-!
# Names of symbols

Symbols of either scheme are shown as the paths that they stand for, without hashes; others are
shown as they are.
-/

namespace CallSite.Demangle

/-- A mark that a linker may put behind a symbol, before capital hexadecimal digits. -/
def linkerMark : List Char := ".llvm.".toList

def isLinkerDigit (c : Char) : Bool :=
  c.isDigit || ('A' ≤ c && c ≤ 'F') || c = '@'

/-- What stands before the first linker mark, if only its digits come after it. -/
def withoutLinkerMark (symbol : List Char) : List Char :=
  let starts := (List.range (symbol.length + 1)).find? fun n =>
    linkerMark.isPrefixOf (symbol.drop n)
  match starts with
  | some n =>
      if (symbol.drop (n + linkerMark.length)).all isLinkerDigit then symbol.take n else symbol
  | none => symbol

/-- What may stand behind a mangled name: nothing, or words in ASCII with dots before them. -/
def isSuffix (rest : List Char) : Bool :=
  rest.isEmpty || (rest.head? = some '.' && rest.all fun c => 0x21 ≤ c.toNat && c.toNat ≤ 0x7e)

/-- The path that a symbol stands for, if it is a mangled name. -/
def demangle? (symbol : List Char) : Option String :=
  let symbol := withoutLinkerMark symbol
  match Legacy.demangle? symbol with
  | some (parts, rest) =>
      if isSuffix rest then some (Legacy.write parts ++ String.ofList rest) else none
  | none =>
      match V0.split? symbol with
      | some (inner, rest) =>
          if isSuffix rest then some (V0.write inner ++ String.ofList rest) else none
      | none => none

def demangle (symbol : String) : String :=
  (demangle? symbol.toList).getD symbol

end CallSite.Demangle
