import CallSite.Window

/-!
# Reading debug information from the front

Scans take numbers and texts from the front of a window. Numbers of variable length have seven bits
in a byte, the lowest first, and a high bit in every byte but the last.
-/

namespace CallSite.Dwarf

abbrev Scan := StateT Window Option

namespace Scan

def byte : Scan Nat := fun w =>
  if w.isEmpty then none else some ((w.byteAt w.start).toNat, { w with start := w.start + 1 })

def number (order : ByteOrder) (width : Nat) : Scan Nat := fun w => do
  let n ← w.number? order width 0
  let rest ← w.drop? width
  pure (n, rest)

/-- The next `n` bytes as a window of their own. -/
def window (n : Nat) : Scan Window := fun w => do
  let front ← w.slice? 0 n
  let rest ← w.drop? n
  pure (front, rest)

def skip (n : Nat) : Scan Unit := discard (window n)

/-- A text that ends in a zero byte. -/
def text : Scan Bytes := fun w => w.text?

/-- Bytes of a variable number: nine of seven bits each, and a tenth that passes a test. -/
def variableDigits (last : Nat → Bool) : Nat → Scan (List Nat)
  | 0 => do
      let b ← byte
      guard (last b)
      pure [b]
  | n + 1 => do
      let b ← byte
      if b < 128 then pure [b]
      else do
        let bs ← variableDigits last n
        pure (b % 128 :: bs)

def ofDigits (digits : List Nat) : Nat :=
  digits.foldr (fun d n => d + 128 * n) 0

/-- A number of at most 64 bits. -/
def unsigned : Scan Nat := do
  let digits ← variableDigits (fun b => b = 0 || b = 1) 9
  pure (ofDigits digits)

/-- A number of at most 64 bits, negative if the highest bit of its last byte is set. -/
def signed : Scan Int := do
  let digits ← variableDigits (fun b => b = 0 || b = 0x7f) 9
  let n := ofDigits digits
  let bits := 7 * digits.length
  pure (if 2 * n < 1 <<< bits then n else (n : Int) - (1 <<< bits : Nat))

/-- A number of at most 16 bits. -/
def unsigned16 : Scan Nat := do
  let digits ← variableDigits (fun b => decide (b ≤ 3)) 2
  pure (ofDigits digits)

/-- `n` times, after what is found already, latest first. -/
def timesAfter {α : Type} (s : Scan α) (found : List α) : Nat → Scan (List α)
  | 0 => pure found.reverse
  | n + 1 => do
      let a ← s
      timesAfter s (a :: found) n

def times {α : Type} (s : Scan α) (n : Nat) : Scan (List α) := timesAfter s [] n

/-- As long as there is another one, at most as often as there are bytes. -/
def whileSomeAfter {α : Type} (s : Scan (Option α)) (found : List α) : Nat → Scan (List α)
  | 0 => failure
  | fuel + 1 => do
      match ← s with
      | none => pure found.reverse
      | some a => whileSomeAfter s (a :: found) fuel

def whileSome {α : Type} (s : Scan (Option α)) : Scan (List α) := fun w =>
  whileSomeAfter s [] w.size w

end Scan

end CallSite.Dwarf
