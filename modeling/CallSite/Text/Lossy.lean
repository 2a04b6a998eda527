import CallSite.Bytes

/-!
# Text from bytes that may not be well formed

Each longest piece of UTF-8 that cannot be continued to a character becomes one replacement
character, as does each byte that no character begins with.
-/

namespace CallSite.Text

/-- A character of which some bytes are read: the bits so far, how many bytes are missing, and the
range of the next one. -/
structure PartialChar where
  bits : Nat
  missing : Nat
  low : Nat
  high : Nat

def replacement : Char := '\uFFFD'

/-- The characters that are complete, latest first, and the one that is not. -/
structure LossyState where
  done : List Char
  pending : Option PartialChar

namespace LossyState

/-- A byte at the beginning of a character. -/
def begin (done : List Char) (b : Nat) : LossyState :=
  let wait bits missing low high : LossyState := ⟨done, some ⟨bits, missing, low, high⟩⟩
  if b < 0x80 then ⟨Char.ofNat b :: done, none⟩
  else if b < 0xc2 then ⟨replacement :: done, none⟩
  else if b < 0xe0 then wait (b - 0xc0) 1 0x80 0xbf
  else if b = 0xe0 then wait 0 2 0xa0 0xbf
  else if b = 0xed then wait 0xd 2 0x80 0x9f
  else if b < 0xf0 then wait (b - 0xe0) 2 0x80 0xbf
  else if b = 0xf0 then wait 0 3 0x90 0xbf
  else if b < 0xf4 then wait (b - 0xf0) 3 0x80 0xbf
  else if b = 0xf4 then wait 4 3 0x80 0x8f
  else ⟨replacement :: done, none⟩

def step (s : LossyState) (byte : UInt8) : LossyState :=
  let b := byte.toNat
  match s.pending with
  | none => begin s.done b
  | some p =>
      if p.low ≤ b ∧ b ≤ p.high then
        let bits := p.bits * 64 + (b - 0x80)
        if p.missing ≤ 1 then ⟨Char.ofNat bits :: s.done, none⟩
        else ⟨s.done, some ⟨bits, p.missing - 1, 0x80, 0xbf⟩⟩
      else begin (replacement :: s.done) b

def finish (s : LossyState) : List Char :=
  match s.pending with
  | none => s.done.reverse
  | some _ => (replacement :: s.done).reverse

end LossyState

def lossy (bs : Bytes) : String :=
  String.ofList (bs.foldl LossyState.step ⟨[], none⟩).finish

end CallSite.Text
