import CallSite.Bytes
import CallSite.Demangle.Ident
import CallSite.Demangle.Output
import CallSite.Text.Numeral
import CallSite.Text.Visible

/-!
# The newer scheme of mangled names

A name is a path with types and constants in it, written in prefix notation. Any part may be
replaced by a reference back to where it stood before. Reading and writing go together: what is not
well formed is marked in the output, and nothing after it is read.
-/

namespace CallSite.Demangle.V0

/-! ### Reading -/

inductive Fault where
  | malformed
  | tooDeep

/-- The note that stands in the output in the place of what cannot be read. -/
def Fault.note : Fault → String
  | .malformed => "\x7binvalid syntax\x7d"
  | .tooDeep => "\x7brecursion limit reached\x7d"

/-- A place in the symbol, and how many parts it is nested in. -/
structure Cursor where
  next : Nat
  depth : Nat

abbrev Read := ReaderT (Array Char) (StateT Cursor (Except Fault))

namespace Read

def depthLimit : Nat := 500

def peek : Read (Option Char) := do
  return (← read)[(← get).next]?

def advance : Read Unit := modify fun c => { c with next := c.next + 1 }

def next : Read Char := do
  match ← peek with
  | some c => do
      advance
      pure c
  | none => throw .malformed

def eat (wanted : Char) : Read Bool := do
  if (← peek) = some wanted then do
    advance
    pure true
  else pure false

def enter : Read Unit := do
  let c ← get
  if depthLimit ≤ c.depth then throw .tooDeep
  set { c with depth := c.depth + 1 }

/-- As many tries as the symbol has characters, and one more. -/
def tries : Read Nat := do
  return (← read).size + 1

def isLowerHex (c : Char) : Bool :=
  c.isDigit || ('a' ≤ c && c ≤ 'f')

def nibblesAfter (found : List Char) : Nat → Read (List Char)
  | 0 => throw .malformed
  | fuel + 1 => do
      let c ← next
      if c = '_' then pure found.reverse
      else if isLowerHex c then nibblesAfter (c :: found) fuel
      else throw .malformed

/-- Hexadecimal digits up to an underscore. -/
def nibbles : Read (List Char) := do
  nibblesAfter [] (← tries)

def digit62? (c : Char) : Option Nat :=
  if c.isDigit then some (c.toNat - 48)
  else if 'a' ≤ c ∧ c ≤ 'z' then some (c.toNat - 87)
  else if 'A' ≤ c ∧ c ≤ 'Z' then some (c.toNat - 29)
  else none

def wordLimit : Nat := UInt64.size

/-- A number that has to fit into 64 bits. -/
def word (n : Nat) : Read Nat :=
  if n < wordLimit then pure n else throw .malformed

def number62After (n : Nat) : Nat → Read Nat
  | 0 => throw .malformed
  | fuel + 1 => do
      let c ← next
      if c = '_' then word (n + 1)
      else
        match digit62? c with
        | some d => do
            let n ← word (n * 62 + d)
            number62After n fuel
        | none => throw .malformed

/-- An underscore for zero, or one less in base 62 before an underscore. -/
def number62 : Read Nat := do
  if ← eat '_' then pure 0 else number62After 0 (← tries)

/-- Zero without the tag, one more than the number behind it otherwise. -/
def tagged62 (tag : Char) : Read Nat := do
  if ← eat tag then do
    let n ← number62
    word (n + 1)
  else pure 0

def disambiguator : Read Nat := tagged62 's'

/-- A namespace; those in small letters have no name. -/
def namespace? : Read (Option Char) := do
  let c ← next
  if 'A' ≤ c ∧ c ≤ 'Z' then pure (some c)
  else if 'a' ≤ c ∧ c ≤ 'z' then pure none
  else throw .malformed

/-- Where a reference leads, which is before its own tag. -/
def reference : Read Cursor := do
  let start := (← get).next - 1
  let n ← number62
  if start ≤ n then throw .malformed
  let c ← get
  if depthLimit ≤ c.depth then throw .tooDeep
  pure ⟨n, c.depth + 1⟩

def digit10 : Read (Option Nat) := do
  match ← peek with
  | some c =>
      if c.isDigit then do
        advance
        pure (some (c.toNat - 48))
      else pure none
  | none => pure none

def number10After (n : Nat) : Nat → Read Nat
  | 0 => throw .malformed
  | fuel + 1 => do
      match ← digit10 with
      | some d => do
          let n ← word (n * 10 + d)
          number10After n fuel
      | none => pure n

/-- A length; a zero at its front is the whole of it. -/
def length : Read Nat := do
  match ← digit10 with
  | some 0 => pure 0
  | some d => number10After d (← tries)
  | none => throw .malformed

/-- Splits at the last underscore. -/
def splitLast (cs : List Char) : List Char × List Char :=
  let after := (cs.reverse.takeWhile (· ≠ '_')).reverse
  (cs.take (cs.length - after.length - 1), after)

def ident : Read Ident := do
  let encoded ← eat 'u'
  let n ← length
  let _ ← eat '_'
  let symbol ← read
  let c ← get
  if symbol.size < c.next + n then throw .malformed
  set { c with next := c.next + n }
  let cs := (symbol.extract c.next (c.next + n)).toList
  if encoded then
    let (ascii, punycode) := splitLast cs
    if punycode.isEmpty then throw .malformed
    pure ⟨ascii, punycode⟩
  else pure ⟨cs, []⟩

end Read

def nibbleValue (digits : List Char) : Nat :=
  digits.foldl (fun n c => n * 16 + (if c.isDigit then c.toNat - 48 else c.toNat - 87)) 0

/-- The number that digits stand for, if it fits into 64 bits. -/
def word? (digits : List Char) : Option Nat :=
  let digits := digits.dropWhile (· = '0')
  if digits.length ≤ 16 then some (nibbleValue digits) else none

def bytes? : List Char → Option Bytes
  | [] => some []
  | a :: b :: rest => (bytes? rest).map (UInt8.ofNat (nibbleValue [a, b]) :: ·)
  | [_] => none

/-- The characters that pairs of digits spell in UTF-8. -/
def text? (digits : List Char) : Option (List Char) := do
  let bs ← bytes? digits
  let s ← bs.toText?
  pure s.toList

/-! ### Writing -/

/-- The state of reading and writing. -/
structure State where
  symbol : Array Char
  cursor : Except Fault Cursor
  /-- Whether anything is written at all. -/
  writing : Bool
  out : Output
  /-- How many lifetimes are bound here. -/
  lifetimes : Nat

/-- Actions that end all when the output grows too long. -/
abbrev Print := ExceptT Unit (StateM State)

namespace Print

def write (s : String) : Print Unit := do
  let state ← get
  if state.writing then
    match state.out.write? s with
    | some out => set { state with out }
    | none => throw ()

/-- Reads something; if that fails, or failed before, this is noted and there is no answer. -/
def parse {α : Type} (r : Read α) : Print (Option α) := do
  let state ← get
  match state.cursor with
  | .error _ => do
      write "?"
      pure none
  | .ok cursor =>
      match (r.run state.symbol).run cursor with
      | .ok (a, cursor) => do
          set { state with cursor := .ok cursor }
          pure (some a)
      | .error fault => do
          write fault.note
          modify fun state => { state with cursor := .error fault }
          pure none

def failed : Print Bool := do
  match (← get).cursor with
  | .ok _ => pure false
  | .error _ => pure true

/-- Takes a character if it is the next one. -/
def eat (wanted : Char) : Print Bool := do
  let state ← get
  match state.cursor with
  | .error _ => pure false
  | .ok cursor =>
      match ((Read.eat wanted).run state.symbol).run cursor with
      | .ok (found, cursor) => do
          set { state with cursor := .ok cursor }
          pure found
      | .error _ => pure false

def malformed : Print Unit := do
  write Fault.malformed.note
  modify fun state => { state with cursor := .error .malformed }

def moveCursor (f : Cursor → Cursor) : Print Unit :=
  modify fun state => match state.cursor with
    | .ok cursor => { state with cursor := .ok (f cursor) }
    | .error _ => state

def leave : Print Unit :=
  moveCursor fun cursor => { cursor with depth := cursor.depth - 1 }

/-- Reads without writing. -/
def silently (action : Print Unit) : Print Unit := do
  let writing := (← get).writing
  modify fun state => { state with writing := false }
  action
  modify fun state => { state with writing := writing }

/-- Goes back to where a reference leads, unless nothing is written anyway. -/
def followReference {α : Type} (skipped : α) (action : Print α) : Print α := do
  match ← parse Read.reference with
  | none => pure skipped
  | some target => do
      let state ← get
      if !state.writing then return skipped
      set { state with cursor := .ok target }
      let a ← action
      modify fun after => { after with cursor := state.cursor }
      pure a

def writeIdent (ident : Ident) : Print Unit :=
  ident.pieces.forM write

/-- Letters in their order, and numbers after the last letter. -/
def writeLetter (n : Nat) : Print Unit := do
  if n < 26 then write (String.singleton (Char.ofNat (97 + n)))
  else do
    write "_"
    write (toString n)

/-- A lifetime by its distance from the innermost binder; zero has no name. -/
def writeLifetime (n : Nat) : Print Unit := do
  let state ← get
  if state.writing then do
    write "\x27"
    if n = 0 then write "_"
    else if n ≤ state.lifetimes then writeLetter (state.lifetimes - n)
    else malformed

/-- Binds lifetimes and writes their names, with commas between them. -/
def bindLifetimes : Nat → Print Unit
  | 0 => pure ()
  | n + 1 => do
      modify fun state => { state with lifetimes := state.lifetimes + 1 }
      writeLifetime 1
      if n ≠ 0 then write ", "
      bindLifetimes n

/-- Lifetimes may be bound for a part, and are no longer bound after it. -/
def inBinder (action : Print Unit) : Print Unit := do
  match ← parse (Read.tagged62 'G') with
  | none => pure ()
  | some n => do
      let state ← get
      if !state.writing then action
      else do
        if 0 < n then do
          write "for<"
          bindLifetimes n
          write "> "
        action
        modify fun after => { after with lifetimes := state.lifetimes }

def listAfter (item : Print Unit) (separator : String) (count : Nat) : Nat → Print Nat
  | 0 => pure count
  | fuel + 1 => do
      if (← failed) || (← eat 'E') then pure count
      else do
        if 0 < count then write separator
        item
        listAfter item separator (count + 1) fuel

/-- Items up to an end mark, and how many there were. -/
def list (item : Print Unit) (separator : String) : Print Nat := do
  listAfter item separator 0 ((← get).symbol.size + 1)

/-- How a character is written between quotes. -/
def escaped (quote c : Char) : String :=
  let pair (letter : Char) := String.ofList ['\\', letter]
  let single := Char.ofNat 0x27
  let double := Char.ofNat 0x22
  if c = single ∨ c = double then (if c = quote then pair c else String.singleton c)
  else if c = '\\' then pair '\\'
  else if c = Char.ofNat 0 then pair '0'
  else if c = '\t' then pair 't'
  else if c = '\r' then pair 'r'
  else if c = '\n' then pair 'n'
  else if Text.isHidden c then "\\u\x7b" ++ Text.lowerHex c.toNat ++ "\x7d"
  else String.singleton c

def writeQuoted (quote : Char) (cs : List Char) : Print Unit := do
  write (String.singleton quote)
  for c in cs do
    for piece in (escaped quote c).toList do
      write (String.singleton piece)
  write (String.singleton quote)

/-- A number, in decimal digits if it fits into 64 bits. -/
def writeNumber : Print Unit := do
  match ← parse Read.nibbles with
  | none => pure ()
  | some digits =>
      match word? digits with
      | some n => write (toString n)
      | none => do
          write "0x"
          write (String.ofList digits)

def writeText : Print Unit := do
  match ← parse Read.nibbles with
  | none => pure ()
  | some digits =>
      match text? digits with
      | some cs => writeQuoted (Char.ofNat 0x22) cs
      | none => malformed

def writeBool : Print Unit := do
  match ← parse Read.nibbles with
  | none => pure ()
  | some digits =>
      match word? digits with
      | some 0 => write "false"
      | some 1 => write "true"
      | _ => malformed

def writeChar : Print Unit := do
  match ← parse Read.nibbles with
  | none => pure ()
  | some digits =>
      match word? digits with
      | some n => if n.isValidChar then writeQuoted (Char.ofNat 0x27) [Char.ofNat n] else malformed
      | none => malformed

/-- The parts of a calling convention, which are written with underscores between them. -/
def writeConvention (name : List Char) : Print Unit := do
  write "extern \x22"
  let part := name.takeWhile (· ≠ '_')
  write (String.ofList part)
  let rec rest : Nat → List Char → Print Unit
    | 0, _ => pure ()
    | _, [] => pure ()
    | fuel + 1, _ :: cs => do
        write "-"
        let part := cs.takeWhile (· ≠ '_')
        write (String.ofList part)
        rest fuel (cs.drop part.length)
  rest name.length (name.drop part.length)
  write "\x22 "

/-- A calling convention, if one is given; the answer is none if it cannot be read. -/
def convention : Print (Option (Option (List Char))) := do
  if !(← eat 'K') then return some none
  if ← eat 'C' then return some (some ['C'])
  match ← parse Read.ident with
  | none => pure none
  | some ident =>
      if ident.ascii.isEmpty || !ident.punycode.isEmpty then do
        malformed
        pure none
      else pure (some (some ident.ascii))

end Print

def basicType? : Char → Option String
  | 'b' => some "bool"
  | 'c' => some "char"
  | 'e' => some "str"
  | 'u' => some "()"
  | 'a' => some "i8"
  | 's' => some "i16"
  | 'l' => some "i32"
  | 'x' => some "i64"
  | 'n' => some "i128"
  | 'i' => some "isize"
  | 'h' => some "u8"
  | 't' => some "u16"
  | 'm' => some "u32"
  | 'y' => some "u64"
  | 'o' => some "u128"
  | 'j' => some "usize"
  | 'f' => some "f32"
  | 'd' => some "f64"
  | 'z' => some "!"
  | 'p' => some "_"
  | 'v' => some "..."
  | _ => none

/-- The name of a special namespace. -/
def namespaceName : Char → String
  | 'C' => "closure"
  | 'S' => "shim"
  | c => String.singleton c

open Print

/-- A name in its namespace, after the path that it belongs to. -/
def printNamed (space : Option Char) (dis : Nat) (name : Ident) : Print Unit := do
  match space with
  | some space => do
      write "::\x7b"
      write (namespaceName space)
      if !name.isEmpty then do
        write ":"
        writeIdent name
      write "#"
      write (toString dis)
      write "\x7d"
  | none =>
      if !name.isEmpty then do
        write "::"
        writeIdent name

/-! Each part of a symbol is printed with fuel for the parts nested in it. -/

mutual

def printPath : Nat → Bool → Print Unit
  | 0, _ => pure ()
  | fuel + 1, inValue => do
      let some _ ← parse Read.enter | return
      let some tag ← parse Read.next | return
      match tag with
      | 'C' => do
          let some _ ← parse Read.disambiguator | return
          let some name ← parse Read.ident | return
          writeIdent name
      | 'N' => do
          let some space ← parse Read.namespace? | return
          printPath fuel inValue
          if ← failed then write "::"
          let some dis ← parse Read.disambiguator | return
          let some name ← parse Read.ident | return
          printNamed space dis name
      | 'M' | 'X' => do
          let some _ ← parse Read.disambiguator | return
          silently (printPath fuel false)
          printImplementation fuel (tag = 'X')
      | 'Y' => printImplementation fuel true
      | 'I' => do
          printPath fuel inValue
          if inValue then write "::"
          write "<"
          let _ ← list (printArgument fuel) ", "
          write ">"
      | 'B' => followReference () (printPath fuel inValue)
      | _ => do
          malformed
          return
      leave

/-- A type, as the implementer of a trait if there is one. -/
def printImplementation : Nat → Bool → Print Unit
  | 0, _ => pure ()
  | fuel + 1, ofTrait => do
      write "<"
      printType fuel
      if ofTrait then do
        write " as "
        printPath fuel false
      write ">"

def printArgument : Nat → Print Unit
  | 0 => pure ()
  | fuel + 1 => do
      if ← eat 'L' then do
        let some n ← parse Read.number62 | return
        writeLifetime n
      else if ← eat 'K' then printConst fuel false
      else printType fuel

def printType : Nat → Print Unit
  | 0 => pure ()
  | fuel + 1 => do
      let some tag ← parse Read.next | return
      match basicType? tag with
      | some name => write name
      | none => do
          let some _ ← parse Read.enter | return
          match tag with
          | 'R' | 'Q' => do
              write "&"
              if ← eat 'L' then do
                let some n ← parse Read.number62 | return
                if n ≠ 0 then do
                  writeLifetime n
                  write " "
              if tag = 'Q' then write "mut "
              printType fuel
          | 'P' | 'O' => do
              write "*"
              write (if tag = 'P' then "const " else "mut ")
              printType fuel
          | 'A' | 'S' => do
              write "["
              printType fuel
              if tag = 'A' then do
                write "; "
                printConst fuel true
              write "]"
          | 'T' => do
              write "("
              let count ← list (printType fuel) ", "
              if count = 1 then write ","
              write ")"
          | 'F' => inBinder (printFunction fuel)
          | 'D' => do
              write "dyn "
              inBinder (discard (list (printTrait fuel) " + "))
              if !(← eat 'L') then do
                malformed
                return
              let some n ← parse Read.number62 | return
              if n ≠ 0 then do
                write " + "
                writeLifetime n
          | 'B' => followReference () (printType fuel)
          | 'W' => do
              printType fuel
              write " is "
              printPattern fuel
          | _ => do
              moveCursor fun cursor => { cursor with next := cursor.next - 1 }
              printPath fuel false
          leave

def printFunction : Nat → Print Unit
  | 0 => pure ()
  | fuel + 1 => do
      let isUnsafe ← eat 'U'
      let some name ← convention | return
      if isUnsafe then write "unsafe "
      match name with
      | some name => writeConvention name
      | none => pure ()
      write "fn("
      let _ ← list (printType fuel) ", "
      write ")"
      if !(← eat 'u') then do
        write " -> "
        printType fuel

/-- The values that a pattern type is restricted to. -/
def printPattern : Nat → Print Unit
  | 0 => pure ()
  | fuel + 1 => do
      let some tag ← parse Read.next | return
      match tag with
      | 'R' => do
          printConst fuel false
          write "..="
          printConst fuel false
      | 'O' => do
          let some _ ← parse Read.enter | return
          let _ ← list (printPattern fuel) " | "
          leave
      | 'N' => write "!null"
      | _ => malformed

/-- The path of a trait; says whether its list of arguments is still open. -/
def printOpenPath : Nat → Print Bool
  | 0 => pure false
  | fuel + 1 => do
      if ← eat 'B' then followReference false (printOpenPath fuel)
      else if ← eat 'I' then do
        printPath fuel false
        write "<"
        let _ ← list (printArgument fuel) ", "
        pure true
      else do
        printPath fuel false
        pure false

/-- Associated types, which go into the list of arguments. -/
def printBindings : Nat → Bool → Print Unit
  | 0, _ => pure ()
  | fuel + 1, isOpen => do
      if ← eat 'p' then do
        write (if isOpen then ", " else "<")
        let some name ← parse Read.ident | return
        writeIdent name
        write " = "
        if ← eat 'K' then printConst fuel false else printType fuel
        printBindings fuel true
      else if isOpen then write ">"

def printTrait : Nat → Print Unit
  | 0 => pure ()
  | fuel + 1 => do
      let isOpen ← printOpenPath fuel
      printBindings fuel isOpen

def printConst : Nat → Bool → Print Unit
  | 0, _ => pure ()
  | fuel + 1, inValue => do
      let some tag ← parse Read.next | return
      let some _ ← parse Read.enter | return
      let openBrace := if inValue then pure () else write "\x7b"
      let closeBrace := if inValue then pure () else write "\x7d"
      match tag with
      | 'p' => write "_"
      | 'h' | 't' | 'm' | 'y' | 'o' | 'j' => writeNumber
      | 'a' | 's' | 'l' | 'x' | 'n' | 'i' => do
          if ← eat 'n' then write "-"
          writeNumber
      | 'b' => writeBool
      | 'c' => writeChar
      | 'e' => do
          openBrace
          write "*"
          writeText
          closeBrace
      | 'R' | 'Q' => do
          if tag = 'R' && (← eat 'e') then writeText
          else do
            openBrace
            write "&"
            if tag = 'Q' then write "mut "
            printConst fuel true
            closeBrace
      | 'A' => do
          openBrace
          write "["
          let _ ← list (printConst fuel true) ", "
          write "]"
          closeBrace
      | 'T' => do
          openBrace
          write "("
          let count ← list (printConst fuel true) ", "
          if count = 1 then write ","
          write ")"
          closeBrace
      | 'V' => do
          openBrace
          printPath fuel true
          let some kind ← parse Read.next | return
          match kind with
          | 'U' => pure ()
          | 'T' => do
              write "("
              let _ ← list (printConst fuel true) ", "
              write ")"
          | 'S' => do
              write " \x7b "
              let _ ← list (printField fuel) ", "
              write " \x7d"
          | _ => do
              malformed
              return
          closeBrace
      | 'B' => followReference () (printConst fuel inValue)
      | _ => do
          malformed
          return
      leave

def printField : Nat → Print Unit
  | 0 => pure ()
  | fuel + 1 => do
      let some _ ← parse Read.disambiguator | return
      let some name ← parse Read.ident | return
      writeIdent name
      write ": "
      printConst fuel true

end

/-- More than the limit of depth lets a symbol use. -/
def fuel : Nat := 16 * (Read.depthLimit + 2)

/-! ### Symbols -/

/-- The symbol after the mark that it begins with. -/
def afterMark? : List Char → Option (List Char)
  | '_' :: 'R' :: c :: rest => some (c :: rest)
  | 'R' :: c :: rest => some (c :: rest)
  | '_' :: '_' :: 'R' :: c :: rest => some (c :: rest)
  | _ => none

def isUpper (c : Char) : Bool := 'A' ≤ c && c ≤ 'Z'

/-- The cursor after a path that is read without writing it. -/
def skipPath (symbol : Array Char) (cursor : Cursor) : Option Cursor :=
  let state : State := ⟨symbol, .ok cursor, false, .empty, 0⟩
  let (_, state) := ((printPath fuel false).run).run state
  state.cursor.toOption

/-- The place after the path and the crate that it is instantiated in. -/
def endOfPath? (symbol : Array Char) : Option Nat := do
  let cursor ← skipPath symbol ⟨0, 0⟩
  if (symbol[cursor.next]?).any isUpper then
    let cursor ← skipPath symbol cursor
    pure cursor.next
  else pure cursor.next

def write (symbol : Array Char) : String :=
  let (finished, state) := ((printPath fuel true).run).run ⟨symbol, .ok ⟨0, 0⟩, true, .empty, 0⟩
  match finished with
  | .ok _ => state.out.text
  | .error _ => state.out.text ++ sizeLimitNote

/-- The symbol without its mark, and what stands behind its path. -/
def split? (symbol : List Char) : Option (Array Char × List Char) := do
  let inner ← afterMark? symbol
  guard (inner.head?.any isUpper)
  guard (inner.all fun c => c.toNat < 128)
  let array := inner.toArray
  let n ← endOfPath? array
  pure (array, inner.drop n)

end CallSite.Demangle.V0
