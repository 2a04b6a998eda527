import CallSite.Bytes.Lemmas
import CallSite.Compression.Gzip
import CallSite.Proofs.Outcome

/-!
# How far a stream inflates

Every symbol of a stream takes one bit at least and gives `258` bytes at most, and a stored block
gives no more bytes than it takes. So what inflates is at most `2064` times as long as the stream.
-/

namespace CallSite.Deflate

/-- How many bits are left. -/
def BitStream.room (s : BitStream) : Nat :=
  8 * s.rest.length + s.count

/-! ### Bits and codes -/

section Reading

variable {s later : BitStream}

theorem room_of_bit? {b : Nat} (h : s.bit? = some (b, later)) :
    later.room + 1 = s.room ∧ b < 2 := by
  rw [BitStream.bit?] at h
  split at h
  · rename_i hcount
    split at h
    · cases h
    · rename_i hrest
      cases h
      simp only [BitStream.room, hrest, List.length_cons]
      omega
  · cases h
    simp only [BitStream.room]
    omega

theorem room_of_bits? {n x : Nat} (h : s.bits? n = some (x, later)) :
    later.room + n = s.room ∧ x < 2 ^ n := by
  induction n generalizing s x with
  | zero =>
      cases h
      exact ⟨rfl, Nat.one_pos⟩
  | succ n ih =>
      simp only [BitStream.bits?, Option.bind_eq_bind, Option.bind_eq_some_iff] at h
      obtain ⟨⟨low, between⟩, hlow, ⟨high, last⟩, hhigh, h⟩ := h
      cases h
      obtain ⟨hroom, hbit⟩ := room_of_bit? hlow
      obtain ⟨hlater, hrest⟩ := ih hhigh
      simp only at hlater hrest ⊢
      rw [Nat.pow_succ]
      omega

theorem room_of_readFrom {symbols : Array Nat} {counts : List Nat} {value first index symbol : Nat}
    (h : Code.readFrom symbols counts value first index s = .symbol symbol later) :
    later.room < s.room := by
  induction counts generalizing value first index s with
  | nil => cases h
  | cons n counts ih =>
      rw [Code.readFrom] at h
      split at h
      · cases h
      · rename_i b between hbit
        have hroom := (room_of_bit? hbit).1
        simp only at h
        split at h
        · cases h
          omega
        · have hlater := ih h
          omega

theorem room_of_read {code : Code} {symbol : Nat} (h : code.read s = .symbol symbol later) :
    later.room < s.room :=
  room_of_readFrom h

end Reading

/-! ### Output -/

section Output

variable {sink after : Sink}

theorem take_eq_ok {α : Type} {read : Option α} {a : α} : sink.take read = .ok a ↔ read = some a := by
  cases read <;> simp [Sink.take]

theorem size_of_push {b : UInt8} (h : sink.push b = .ok after) :
    after.output.size = sink.output.size + 1 := by
  rw [Sink.push] at h
  split at h
  · cases h
  · cases h
    exact Array.size_push b

theorem size_of_repeatBack {distance n : Nat} (h : sink.repeatBack distance n = .ok after) :
    after.output.size = sink.output.size + n := by
  induction n generalizing sink with
  | zero =>
      cases h
      rfl
  | succ n ih =>
      obtain ⟨between, hpush, h⟩ := bind_eq_ok.mp h
      rw [ih h, size_of_push hpush]
      omega

theorem size_of_pushAll {bs : Bytes} (h : sink.pushAll bs = .ok after) :
    after.output.size = sink.output.size + bs.length := by
  induction bs generalizing sink with
  | nil =>
      cases h
      rfl
  | cons b bs ih =>
      obtain ⟨between, hpush, h⟩ := bind_eq_ok.mp h
      rw [ih h, size_of_push hpush, List.length_cons]
      omega

end Output

/-! ### Blocks -/

section Blocks

variable {s later : BitStream} {sink after : Sink}

theorem extended_eq_ok {bases extras : Array Nat} {symbol x : Nat}
    (h : extended bases extras symbol sink s = .ok (x, later)) :
    later.room ≤ s.room ∧ ∃ hsymbol : symbol < bases.size,
      x < bases[symbol] + 2 ^ extras.getD symbol 0 := by
  rw [extended] at h
  split at h
  · rename_i hsymbol
    obtain ⟨⟨more, between⟩, hmore, h⟩ := bind_eq_ok.mp h
    cases h
    obtain ⟨hroom, hlt⟩ := room_of_bits? (take_eq_ok.mp hmore)
    exact ⟨by omega, hsymbol, by omega⟩
  · cases h

theorem le_bound (i : Fin lengthBases.size) :
    lengthBases[i] + 2 ^ lengthExtras.getD i 0 ≤ 259 := by
  revert i
  decide

/-- No repetition is longer than `258` bytes. -/
theorem length_of_extended {symbol n : Nat}
    (h : extended lengthBases lengthExtras symbol sink s = .ok (n, later)) :
    later.room ≤ s.room ∧ n ≤ 258 := by
  obtain ⟨hroom, hsymbol, hlt⟩ := extended_eq_ok h
  have hle : lengthBases[symbol] + 2 ^ lengthExtras.getD symbol 0 ≤ 259 := le_bound ⟨symbol, hsymbol⟩
  exact ⟨hroom, Nat.lt_succ_iff.mp (Nat.lt_of_lt_of_le hlt hle)⟩

/-- What is read pays for what is put out, at `258` bytes for each bit. -/
theorem size_of_readSymbols {literals distances : Code} {fuel : Nat}
    (h : readSymbols literals distances fuel s sink = .ok (later, after)) :
    after.output.size + 258 * later.room ≤ sink.output.size + 258 * s.room := by
  induction fuel generalizing s sink with
  | zero => cases h
  | succ fuel ih =>
      rw [readSymbols] at h
      split at h
      case h_1 => cases h
      case h_2 => cases h
      case h_3 value between hread =>
        have hroom := room_of_read hread
        split at h
        · obtain ⟨pushed, hpush, h⟩ := bind_eq_ok.mp h
          have hrest := ih h
          rw [size_of_push hpush] at hrest
          omega
        · split at h
          · cases h
            omega
          · obtain ⟨⟨length, s₁⟩, hlength, h⟩ := bind_eq_ok.mp h
            obtain ⟨hroom₁, hle⟩ := length_of_extended hlength
            simp only at h
            split at h
            case h_1 => cases h
            case h_2 => cases h
            case h_3 symbol s₂ hread₂ =>
              have hroom₂ := room_of_read hread₂
              obtain ⟨⟨distance, s₃⟩, hdistance, h⟩ := bind_eq_ok.mp h
              have hroom₃ := (extended_eq_ok hdistance).1
              simp only at h
              split at h
              · cases h
              · obtain ⟨repeated, hrepeat, h⟩ := bind_eq_ok.mp h
                have hrest := ih h
                rw [size_of_repeatBack hrepeat] at hrest
                omega

theorem room_of_readTriples {n : Nat} {xs : List Nat}
    (h : readTriples sink n s = .ok (xs, later)) : later.room ≤ s.room := by
  induction n generalizing s xs with
  | zero =>
      cases h
      exact Nat.le_refl _
  | succ n ih =>
      obtain ⟨⟨x, between⟩, hx, h⟩ := bind_eq_ok.mp h
      obtain ⟨⟨rest, last⟩, hrest, h⟩ := bind_eq_ok.mp h
      cases h
      have hroom := (room_of_bits? (take_eq_ok.mp hx)).1
      have hlast := ih hrest
      omega

theorem room_of_readLengths {code : Code} {total fuel : Nat} {found lengths : List Nat}
    (h : readLengths code total sink fuel s found = .ok (lengths, later)) :
    later.room ≤ s.room := by
  induction fuel generalizing s found with
  | zero => cases h
  | succ fuel ih =>
      rw [readLengths] at h
      split at h
      · cases h
        exact Nat.le_refl _
      · split at h
        · cases h
        · split at h
          case h_1 => cases h
          case h_2 => cases h
          case h_3 value between hread =>
            have hroom := room_of_read hread
            -- a count of repetitions takes some more bits
            have hmore : ∀ {m : Nat} {next : Nat × BitStream → Except Halt (List Nat × BitStream)},
                (∀ n last, ∃ more, next (n, last) =
                  readLengths code total sink fuel last (more ++ found)) →
                (sink.take (between.bits? m) >>= next) = .ok (lengths, later) →
                later.room ≤ s.room := by
              intro m next hreads hnext
              obtain ⟨⟨n, last⟩, hn, hnext⟩ := bind_eq_ok.mp hnext
              obtain ⟨more, heq⟩ := hreads n last
              rw [heq] at hnext
              have hlast := (room_of_bits? (take_eq_ok.mp hn)).1
              have hrest := ih hnext
              omega
            split at h
            · have hrest := ih h
              omega
            · split at h
              · split at h
                · cases h
                · exact hmore (fun _ _ => ⟨_, rfl⟩) h
              · split at h
                · exact hmore (fun _ _ => ⟨_, rfl⟩) h
                · exact hmore (fun _ _ => ⟨_, rfl⟩) h

theorem room_of_readCodes {literals distances : Code}
    (h : readCodes sink s = .ok (literals, distances, later)) : later.room ≤ s.room := by
  obtain ⟨⟨literalCount, s₁⟩, h₁, h⟩ := bind_eq_ok.mp h
  obtain ⟨⟨distanceCount, s₂⟩, h₂, h⟩ := bind_eq_ok.mp h
  obtain ⟨⟨lengthCount, s₃⟩, h₃, h⟩ := bind_eq_ok.mp h
  have hroom₁ := (room_of_bits? (take_eq_ok.mp h₁)).1
  have hroom₂ := (room_of_bits? (take_eq_ok.mp h₂)).1
  have hroom₃ := (room_of_bits? (take_eq_ok.mp h₃)).1
  simp only at h
  split at h
  · cases h
  · obtain ⟨⟨triples, s₄⟩, h₄, h⟩ := bind_eq_ok.mp h
    have hroom₄ := room_of_readTriples h₄
    simp only at h
    split at h
    · cases h
    · obtain ⟨⟨lengths, s₅⟩, h₅, h⟩ := bind_eq_ok.mp h
      have hroom₅ := room_of_readLengths h₅
      simp only at h
      split at h
      · cases h
      · cases h
        omega

theorem size_of_readStored (h : readStored s sink = .ok (later, after)) :
    after.output.size + 258 * later.room ≤ sink.output.size + 258 * s.room := by
  obtain ⟨⟨sizeBytes, rest₁⟩, h₁, h⟩ := bind_eq_ok.mp h
  obtain ⟨⟨check, rest⟩, h₂, h⟩ := bind_eq_ok.mp h
  have hlength₁ := Bytes.length_of_take? (take_eq_ok.mp h₁)
  have hlength₂ := Bytes.length_of_take? (take_eq_ok.mp h₂)
  simp only at h
  split at h
  · cases h
  · obtain ⟨pushed, hpush, h⟩ := bind_eq_ok.mp h
    have hsize := size_of_pushAll hpush
    split at h
    · cases h
    · cases h
      simp only [BitStream.ofBytes, BitStream.room, List.length_take, List.length_drop] at hsize ⊢
      omega

/-- Blocks pay for what they put out, stored ones with the bytes themselves. -/
theorem size_of_readBlocks {fuel : Nat} (h : readBlocks fuel s sink = .ok (later, after)) :
    after.output.size + 258 * later.room ≤ sink.output.size + 258 * s.room := by
  induction fuel generalizing s sink with
  | zero => cases h
  | succ fuel ih =>
      obtain ⟨⟨final, s₁⟩, hfinal, h⟩ := bind_eq_ok.mp h
      obtain ⟨⟨kind, s₂⟩, hkind, h⟩ := bind_eq_ok.mp h
      have hroom₁ := (room_of_bits? (take_eq_ok.mp hfinal)).1
      have hroom₂ := (room_of_bits? (take_eq_ok.mp hkind)).1
      have hnext : ∀ {s₃ : BitStream} {sink₃ : Sink},
          sink₃.output.size + 258 * s₃.room ≤ sink.output.size + 258 * s₂.room →
          (if final = 1 then pure (s₃, sink₃) else readBlocks fuel s₃ sink₃) = .ok (later, after) →
          after.output.size + 258 * later.room ≤ sink.output.size + 258 * s.room := by
        intro s₃ sink₃ hsize hrest
        split at hrest
        · cases hrest
          omega
        · have hlast := ih hrest
          omega
      simp only at h
      split at h
      · obtain ⟨⟨s₃, sink₃⟩, hblock, h⟩ := bind_eq_ok.mp h
        exact hnext (size_of_readStored hblock) h
      · obtain ⟨⟨s₃, sink₃⟩, hblock, h⟩ := bind_eq_ok.mp h
        exact hnext (size_of_readSymbols hblock) h
      · obtain ⟨⟨literals, distances, s₃⟩, hcodes, h⟩ := bind_eq_ok.mp h
        obtain ⟨⟨s₄, sink₄⟩, hblock, h⟩ := bind_eq_ok.mp h
        have hroom₃ := room_of_readCodes hcodes
        have hsymbols : sink₄.output.size + 258 * s₄.room ≤
            sink.output.size + 258 * s₃.room := size_of_readSymbols hblock
        exact hnext (by simp only; omega) h
      · cases h

end Blocks

/-- Whatever the stream is, `2064` bytes come out for each of it at most. -/
theorem size_of_inflate {limit : Option Nat} {bs rest : Bytes} {output : Array UInt8}
    (h : inflate limit bs = .ok (output, rest)) : output.size ≤ 2064 * bs.length := by
  obtain ⟨⟨s, sink⟩, hblocks, h⟩ := bind_eq_ok.mp h
  cases h
  have hsize := size_of_readBlocks hblocks
  simp only [BitStream.ofBytes, BitStream.room, Array.size_empty] at hsize
  omega

end CallSite.Deflate

namespace CallSite.Gzip

variable {bs rest : Bytes}

theorem length_of_skipExtra? (h : skipExtra? bs = some rest) : rest.length ≤ bs.length := by
  obtain ⟨⟨size, rest₁⟩, h₁, h⟩ := Option.bind_eq_some_iff.mp h
  obtain ⟨⟨field, rest₂⟩, h₂, h⟩ := Option.bind_eq_some_iff.mp h
  cases h
  have hlength₁ := Bytes.length_of_take? h₁
  have hlength₂ := Bytes.length_of_take? h₂
  omega

theorem length_of_skipText? (h : skipText? bs = some rest) : rest.length ≤ bs.length := by
  rw [skipText?] at h
  split at h
  · cases h
  · rename_i b kept hdrop
    split at h
    · cases h
      have hlength := congrArg List.length hdrop
      rw [List.length_drop, List.length_cons] at hlength
      omega
    · cases h

theorem length_of_skipCheck? {whole : Bytes} (h : skipCheck? whole bs = some rest) :
    rest.length ≤ bs.length := by
  obtain ⟨⟨check, rest₁⟩, h₁, h⟩ := Option.bind_eq_some_iff.mp h
  obtain ⟨_, -, h⟩ := Option.bind_eq_some_iff.mp h
  cases h
  have hlength₁ := Bytes.length_of_take? h₁
  omega

theorem length_of_skipIf {asked : Bool} {skip : Bytes → Option Bytes}
    (hskip : ∀ {bs rest}, skip bs = some rest → rest.length ≤ bs.length)
    (h : skipIf asked skip bs = some rest) : rest.length ≤ bs.length := by
  rw [skipIf] at h
  split at h
  · exact hskip h
  · cases h
    exact Nat.le_refl _

theorem length_of_skipHeader? (h : skipHeader? bs = some rest) : rest.length ≤ bs.length := by
  obtain ⟨⟨fixed, rest₁⟩, h₁, h⟩ := Option.bind_eq_some_iff.mp h
  obtain ⟨_, -, h⟩ := Option.bind_eq_some_iff.mp h
  obtain ⟨_, -, h⟩ := Option.bind_eq_some_iff.mp h
  obtain ⟨rest₂, h₂, h⟩ := Option.bind_eq_some_iff.mp h
  obtain ⟨rest₃, h₃, h⟩ := Option.bind_eq_some_iff.mp h
  obtain ⟨rest₄, h₄, h⟩ := Option.bind_eq_some_iff.mp h
  have hlength₁ := Bytes.length_of_take? h₁
  have hlength₂ := length_of_skipIf length_of_skipExtra? h₂
  have hlength₃ := length_of_skipIf length_of_skipText? h₃
  have hlength₄ := length_of_skipIf length_of_skipText? h₄
  have hlength := length_of_skipIf length_of_skipCheck? h
  omega

/-- What a member holds is at most `2064` times as long as the member. -/
theorem length_of_decompress? {content : Bytes} (h : decompress? bs = some content) :
    content.length ≤ 2064 * bs.length := by
  obtain ⟨rest, hheader, h⟩ := Option.bind_eq_some_iff.mp h
  obtain ⟨⟨output, last⟩, hinflate, h⟩ := Option.bind_eq_some_iff.mp h
  simp only [Option.bind_eq_bind, Option.bind_eq_some_iff] at h
  obtain ⟨_, -, _, -, _, -, _, -, h⟩ := h
  cases h
  have hrest := length_of_skipHeader? hheader
  cases houtput : Deflate.inflate none rest with
  | error halt => simp [houtput, Except.toOption] at hinflate
  | ok found =>
      obtain ⟨bytes, after⟩ := found
      simp only [houtput, Except.toOption, Option.some.injEq, Prod.mk.injEq] at hinflate
      have hsize := Deflate.size_of_inflate houtput
      rw [Array.length_toList, ← hinflate.1]
      omega

end CallSite.Gzip
