import CallSite.Bytes.Lemmas

/-!
# The order of texts and of their bytes

In UTF-8 the greater of two characters has the greater bytes: a longer encoding begins with a greater
byte, and encodings of one length hold the digits of the character from the highest on. So texts are
in the order of their bytes.
-/

namespace CallSite.Bytes

theorem ofNat_cons_lt_iff {m n : Nat} {bs bs' : Bytes} (hm : m < 256) (hn : n < 256) :
    UInt8.ofNat m :: bs < UInt8.ofNat n :: bs' ↔ m < n ∨ m = n ∧ bs < bs' := by
  rw [List.cons_lt_cons_iff, UInt8.ofNat_lt_iff_lt hm hn, ← UInt8.toNat_inj,
    UInt8.toNat_ofNat_of_lt' hm, UInt8.toNat_ofNat_of_lt' hn]

/-- Whatever follows, the bytes of the lesser of two characters come first. -/
theorem utf8EncodeChar_append_lt {c d : Char} (h : c < d) (bs bs' : Bytes) :
    String.utf8EncodeChar c ++ bs < String.utf8EncodeChar d ++ bs' := by
  have hlt : c.val.toNat < d.val.toNat := h
  have hbound : d.val.toNat < 0x110000 := by
    rcases d.valid with hlow | hhigh
    · exact Nat.lt_trans hlow (by decide)
    · exact hhigh.2
  rw [String.utf8EncodeChar, String.utf8EncodeChar]
  generalize c.val.toNat = m at hlt
  generalize d.val.toNat = n at hlt hbound
  -- As digits to the base of 64, so that the first digit that differs decides.
  have hthird (k : Nat) : k / 4096 = k / 64 / 64 := by omega
  have hfourth (k : Nat) : k / 262144 = k / 64 / 64 / 64 := by omega
  simp only [hthird, hfourth]
  split_ifs <;> simp (disch := omega) only [List.cons_append, ofNat_cons_lt_iff] <;> omega

theorem flatMap_utf8EncodeChar_lt {cs ds : List Char} (h : cs < ds) :
    cs.flatMap String.utf8EncodeChar < ds.flatMap String.utf8EncodeChar := by
  induction h with
  | @nil d ds =>
      rw [List.flatMap_nil, List.flatMap_cons]
      obtain ⟨b, bs, hb⟩ := List.exists_cons_of_ne_nil (String.utf8EncodeChar_ne_nil (c := d))
      rw [hb]
      exact List.Lex.nil
  | rel h =>
      rw [List.flatMap_cons, List.flatMap_cons]
      exact utf8EncodeChar_append_lt h _ _
  | cons _ ih =>
      rw [List.flatMap_cons, List.flatMap_cons]
      exact List.append_left_lt ih

theorem ofText_eq_flatMap (s : String) : ofText s = s.toList.flatMap String.utf8EncodeChar := by
  rw [ofText_eq, ← String.utf8Encode_toList, List.utf8Encode, List.toList_data_toByteArray]

theorem ofText_lt_of_lt {s t : String} (h : s < t) : ofText s < ofText t := by
  rw [ofText_eq_flatMap, ofText_eq_flatMap]
  exact flatMap_utf8EncodeChar_lt h

/-- Texts are in the order of their bytes. -/
theorem ofText_lt_iff {s t : String} : ofText s < ofText t ↔ s < t := by
  refine ⟨fun hbytes => ?_, ofText_lt_of_lt⟩
  by_cases hge : t ≤ s
  · by_cases hle : s ≤ t
    · obtain rfl := String.le_antisymm hle hge
      exact absurd hbytes (List.lt_irrefl _)
    · exact absurd hbytes (List.lt_asymm (ofText_lt_of_lt (String.not_le.mp hle)))
  · exact String.not_le.mp hge

end CallSite.Bytes
