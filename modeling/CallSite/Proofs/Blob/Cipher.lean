import CallSite.Blob.Cipher
import Mathlib.Data.List.Basic
import Mathlib.Data.Option.Basic

/-!
# Deciphering undoes enciphering

Each step of the cipher stands beside its inverse, so a chain of steps is undone from its end. This
holds for every secret and every byte string.
-/

namespace CallSite.Cipher

/-! ### Steps on bytes -/

theorem inverseSubstitution_substitution :
    substitution.toList.map (fun b => inverseSubstitution.toList[b.toNat]?) =
      (List.range 256).map fun n => some (UInt8.ofNat n) := by
  decide +kernel

theorem unsubstitute_substitute (b : UInt8) : unsubstitute (substitute b) = b := by
  have h := congrArg (·[b.toNat]?) inverseSubstitution_substitution
  simp only [List.getElem?_map, List.getElem?_range b.toNat_lt, Option.map_some,
    Option.map_eq_some_iff] at h
  obtain ⟨x, hx, hb⟩ := h
  have hsub : substitute b = x := by
    rw [substitute, Array.getD_eq_getD_getElem?, ← Array.getElem?_toList, hx]
    rfl
  rw [hsub, unsubstitute, Array.getD_eq_getD_getElem?, ← Array.getElem?_toList, hb]
  simp

theorem xor_cancel_left (a b : UInt8) : a ^^^ (a ^^^ b) = b := by
  rw [← UInt8.xor_assoc, UInt8.xor_self, UInt8.zero_xor]

theorem xor_cancel_right (a b : UInt8) : a ^^^ b ^^^ b = a := by
  rw [UInt8.xor_assoc, UInt8.xor_self, UInt8.xor_zero]

theorem xor_left_comm (a b c : UInt8) : a ^^^ (b ^^^ c) = b ^^^ (a ^^^ c) := by
  rw [← UInt8.xor_assoc, UInt8.xor_comm a b, UInt8.xor_assoc]

/-- Doubling is made of shifts and of xor, so it keeps sums. -/
theorem double_xor (a b : UInt8) : double (a ^^^ b) = double a ^^^ double b := by
  simp only [double, UInt8.shiftRight_xor, UInt8.shiftLeft_xor]
  ac_rfl

/-! ### Steps on columns -/

namespace Column

theorem xor_cancel (a b : Column) : (a.xor b).xor b = a := by
  simp only [xor, zipWith, xor_cancel_right]

theorem map_unsubstitute_substitute (a : Column) :
    (a.map substitute).map unsubstitute = a := by
  simp only [map, unsubstitute_substitute]

def total (a : Column) : UInt8 :=
  a.x0 ^^^ a.x1 ^^^ a.x2 ^^^ a.x3

theorem mix_eq (a : Column) :
    a.mix =
      ⟨a.x0 ^^^ a.total ^^^ double (a.x0 ^^^ a.x1), a.x1 ^^^ a.total ^^^ double (a.x1 ^^^ a.x2),
        a.x2 ^^^ a.total ^^^ double (a.x2 ^^^ a.x3), a.x3 ^^^ a.total ^^^ double (a.x3 ^^^ a.x0)⟩ :=
  rfl

theorem total_mix (a : Column) : a.mix.total = a.total := by
  simp only [mix, total, double_xor]
  simp only [UInt8.xor_assoc, UInt8.xor_comm, xor_left_comm, xor_cancel_left, UInt8.xor_self,
    UInt8.xor_zero]

/-- One byte of a column that is mixed twice, if the sum `t` of the column is the same both times. -/
theorem mix_mix_byte (x y z t : UInt8) :
    x ^^^ t ^^^ double (x ^^^ y) ^^^ t ^^^
        double (x ^^^ t ^^^ double (x ^^^ y) ^^^ (y ^^^ t ^^^ double (y ^^^ z))) =
      x ^^^ double (double (x ^^^ z)) := by
  simp only [double_xor]
  simp only [UInt8.xor_assoc, UInt8.xor_comm, xor_left_comm, xor_cancel_left]

/-- Mixing twice adds to each byte four times its sum with the byte two places on. -/
theorem mix_mix (a : Column) :
    a.mix.mix =
      ⟨a.x0 ^^^ double (double (a.x0 ^^^ a.x2)), a.x1 ^^^ double (double (a.x1 ^^^ a.x3)),
        a.x2 ^^^ double (double (a.x2 ^^^ a.x0)), a.x3 ^^^ double (double (a.x3 ^^^ a.x1))⟩ := by
  rw [mix_eq a.mix, total_mix, mix_eq a]
  simp only [mix_mix_byte]

theorem unmix_mix (a : Column) : a.mix.unmix = a := by
  rw [unmix, mix_mix, mix_mix]
  simp only [double_xor]
  congr 1 <;>
    simp only [UInt8.xor_comm, xor_left_comm, UInt8.xor_self, UInt8.xor_zero, UInt8.zero_xor]

end Column

/-! ### Steps on blocks -/

namespace Block

theorem xor_cancel (a b : Block) : (a.xor b).xor b = a := by
  simp only [xor, zipWith, Column.xor_cancel]

theorem map_unmix_mix (a : Block) : (a.map Column.mix).map Column.unmix = a := by
  simp only [map, Column.unmix_mix]

theorem unshiftRows_shiftRows (a : Block) : a.shiftRows.unshiftRows = a :=
  rfl

theorem unscramble_scramble (a : Block) : a.scramble.unscramble = a := by
  rw [scramble, unscramble, unshiftRows_shiftRows]
  simp only [map, Column.map_unsubstitute_substitute]

end Block

/-! ### Rounds and chains -/

theorem encryptRounds_cons (k next : Block) (rest : List Block) (b : Block) :
    encryptRounds (k :: next :: rest) b =
      encryptRounds (next :: rest) ((b.scramble.map Column.mix).xor k) :=
  rfl

theorem decryptRounds_cons (k next : Block) (rest : List Block) (b : Block) :
    decryptRounds (k :: next :: rest) b =
      (((decryptRounds (next :: rest) b).xor k).map Column.unmix).unscramble :=
  rfl

theorem decryptRounds_encryptRounds (keys : List Block) (b : Block) :
    decryptRounds keys (encryptRounds keys b) = b := by
  induction keys generalizing b with
  | nil => rfl
  | cons k rest ih =>
      cases rest with
      | nil =>
          change ((b.scramble.xor k).xor k).unscramble = b
          rw [Block.xor_cancel, Block.unscramble_scramble]
      | cons next rest =>
          rw [encryptRounds_cons, decryptRounds_cons, ih, Block.xor_cancel, Block.map_unmix_mix,
            Block.unscramble_scramble]

theorem decryptBlock_encryptBlock (keys : RoundKeys) (b : Block) :
    decryptBlock keys (encryptBlock keys b) = b := by
  rw [decryptBlock, encryptBlock, decryptRounds_encryptRounds, Block.xor_cancel]

/-- What is written already stays in front of the rest. -/
theorem encryptAfter_eq (keys : RoundKeys) (done : List Block) (before : Block)
    (blocks : List Block) :
    encryptAfter keys done before blocks =
      done.reverse ++ encryptAfter keys [] before blocks := by
  induction blocks generalizing done before with
  | nil => simp [encryptAfter]
  | cons b rest ih =>
      simp only [encryptAfter]
      rw [ih, ih [_]]
      simp

theorem encryptChain_cons (keys : RoundKeys) (start b : Block) (rest : List Block) :
    encryptChain keys start (b :: rest) =
      encryptBlock keys (b.xor start) ::
        encryptChain keys (encryptBlock keys (b.xor start)) rest := by
  rw [encryptChain, encryptAfter, encryptAfter_eq]
  rfl

@[simp]
theorem length_encryptChain (keys : RoundKeys) (start : Block) (blocks : List Block) :
    (encryptChain keys start blocks).length = blocks.length := by
  induction blocks generalizing start with
  | nil => rfl
  | cons b rest ih => rw [encryptChain_cons, List.length_cons, ih, List.length_cons]

theorem decryptChain_encryptChain (keys : RoundKeys) (start : Block) (blocks : List Block) :
    decryptChain keys start (encryptChain keys start blocks) = blocks := by
  induction blocks generalizing start with
  | nil => rfl
  | cons b rest ih =>
      have hrest := ih (encryptBlock keys (b.xor start))
      rw [decryptChain] at hrest
      rw [encryptChain_cons, decryptChain, List.zipWith_cons_cons, hrest,
        decryptBlock_encryptBlock, Block.xor_cancel]

/-! ### Bytes and blocks -/

@[simp]
theorem length_toBytes (b : Block) : b.toBytes.length = 16 :=
  rfl

theorem ofBlocks_cons (b : Block) (blocks : List Block) :
    ofBlocks (b :: blocks) = b.toBytes ++ ofBlocks blocks :=
  rfl

theorem length_ofBlocks (blocks : List Block) : (ofBlocks blocks).length = 16 * blocks.length := by
  induction blocks with
  | nil => rfl
  | cons b rest ih =>
      rw [ofBlocks_cons, List.length_append, ih, length_toBytes, List.length_cons]
      omega

theorem blocksAfter?_ofBlocks (found blocks : List Block) :
    blocksAfter? found (ofBlocks blocks) = some (found.reverse ++ blocks) := by
  induction blocks generalizing found with
  | nil => simp [ofBlocks, blocksAfter?]
  | cons b rest ih =>
      rw [ofBlocks_cons]
      simp only [Block.toBytes, List.cons_append, List.nil_append, blocksAfter?, ih]
      simp

theorem blocks?_ofBlocks (blocks : List Block) : blocks? (ofBlocks blocks) = some blocks := by
  simpa [blocks?] using blocksAfter?_ofBlocks [] blocks

/-- Bytes that fill whole blocks come from blocks. -/
theorem exists_ofBlocks (n : Nat) (bs : List UInt8) (h : bs.length = 16 * n) :
    ∃ blocks, bs = ofBlocks blocks := by
  induction n generalizing bs with
  | zero => exact ⟨[], List.length_eq_zero_iff.mp h⟩
  | succ n ih =>
      obtain ⟨rest, hrest⟩ := ih (bs.drop 16) (by rw [List.length_drop]; omega)
      obtain ⟨b, hb⟩ : ∃ b : Block, bs.take 16 = b.toBytes := by
        have hlen : (bs.take 16).length = 16 := by rw [List.length_take]; omega
        match bs.take 16, hlen with
        | [a0, a1, a2, a3, b0, b1, b2, b3, c0, c1, c2, c3, d0, d1, d2, d3], _ =>
            exact ⟨⟨⟨a0, a1, a2, a3⟩, ⟨b0, b1, b2, b3⟩, ⟨c0, c1, c2, c3⟩, ⟨d0, d1, d2, d3⟩⟩, rfl⟩
      refine ⟨b :: rest, ?_⟩
      rw [ofBlocks_cons, ← hb, ← hrest, List.take_append_drop]

/-! ### Padding -/

theorem length_pad (bs : List UInt8) :
    (pad bs).length = 16 * (bs.length / 16 + 1) := by
  simp only [pad, List.length_append, List.length_replicate]
  omega

theorem unpad?_pad (bs : List UInt8) : unpad? (pad bs) = some bs := by
  obtain ⟨n, hn⟩ : ∃ n, 16 - bs.length % 16 = n + 1 := ⟨15 - bs.length % 16, by omega⟩
  have hbyte : (UInt8.ofNat (n + 1)).toNat = n + 1 := by
    rw [UInt8.toNat_ofNat']
    omega
  have hlast : (pad bs).getLast? = some (UInt8.ofNat (n + 1)) := by
    simp [pad, hn, List.replicate_succ', ← List.append_assoc]
  have htake : (pad bs).take ((pad bs).length - (n + 1)) = bs := by
    simp [pad, hn]
  have hdrop : (pad bs).drop bs.length = List.replicate (n + 1) (UInt8.ofNat (n + 1)) := by
    simp [pad, hn]
  have hfits : 1 ≤ n + 1 ∧ n + 1 ≤ 16 ∧ n + 1 ≤ (pad bs).length := by
    rw [length_pad]
    omega
  simp only [unpad?, hlast, Option.bind_eq_bind, Option.bind_some, hbyte, htake, hdrop]
  simp [guard, hfits]

/-! ### Byte strings -/

theorem encrypt_eq (secret : Secret) (bs : List UInt8) :
    ∃ blocks, ofBlocks blocks = pad bs ∧
      encrypt secret bs = ofBlocks (encryptChain (.ofPair secret.key) secret.start blocks) := by
  obtain ⟨blocks, hblocks⟩ := exists_ofBlocks _ _ (length_pad bs)
  refine ⟨blocks, hblocks.symm, ?_⟩
  rw [encrypt, hblocks, blocks?_ofBlocks]

theorem length_encrypt (secret : Secret) (bs : List UInt8) :
    (encrypt secret bs).length = 16 * (bs.length / 16 + 1) := by
  obtain ⟨blocks, hpad, hblocks⟩ := encrypt_eq secret bs
  rw [hblocks, length_ofBlocks, length_encryptChain, ← length_ofBlocks, hpad, length_pad]

theorem length_of_blocksAfter? {found blocks : List Block} {bs : List UInt8}
    (h : blocksAfter? found bs = some blocks) :
    16 * blocks.length = 16 * found.length + bs.length := by
  fun_induction blocksAfter? found bs with
  | case1 found =>
      cases h
      simp
  | case2 found a0 a1 a2 a3 b0 b1 b2 b3 c0 c1 c2 c3 d0 d1 d2 d3 rest ih =>
      rw [ih h]
      simp only [List.length_cons]
      omega
  | case3 => cases h

theorem length_of_unpad? {bs kept : List UInt8} (h : unpad? bs = some kept) :
    kept.length ≤ bs.length := by
  simp only [unpad?, Option.bind_eq_bind, Option.bind_eq_some_iff] at h
  obtain ⟨last, -, _, -, _, -, h⟩ := h
  cases h
  exact List.length_take_le' _ _

/-- What is deciphered is no longer than what was to be deciphered. -/
theorem length_of_decrypt? {secret : Secret} {bs content : List UInt8}
    (h : decrypt? secret bs = some content) : content.length ≤ bs.length := by
  obtain ⟨blocks, hblocks, hcontent⟩ := Option.bind_eq_some_iff.mp h
  have hlength := length_of_blocksAfter? hblocks
  have hchain : (decryptChain (.ofPair secret.key) secret.start blocks).length ≤ blocks.length := by
    rw [decryptChain, List.length_zipWith]
    exact Nat.min_le_right _ _
  have hkept := length_of_unpad? hcontent
  rw [length_ofBlocks] at hkept
  rw [List.length_nil] at hlength
  omega

/-- Deciphering gives back whatever was enciphered with the same secret. -/
theorem decrypt?_encrypt (secret : Secret) (bs : List UInt8) :
    decrypt? secret (encrypt secret bs) = some bs := by
  obtain ⟨blocks, hpad, hblocks⟩ := encrypt_eq secret bs
  rw [hblocks, decrypt?, blocks?_ofBlocks]
  simp only [Option.bind_eq_bind, Option.bind_some]
  rw [decryptChain_encryptChain, hpad, unpad?_pad]

end CallSite.Cipher
