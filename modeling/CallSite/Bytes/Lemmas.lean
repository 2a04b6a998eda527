import CallSite.Bytes
import Mathlib.Algebra.Order.Ring.Nat

/-!
# Numbers and texts as byte strings

Reading a number back gives what there is room for, and reading a text back gives the text.
-/

namespace CallSite.Bytes

theorem ofLittleEndian_littleEndian (width n : Nat) :
    ofLittleEndian (littleEndian width n) = n % 256 ^ width := by
  induction width generalizing n with
  | zero => simp [littleEndian, ofLittleEndian, Nat.mod_one]
  | succ width ih =>
      have hbyte : (UInt8.ofNat (n % 256)).toNat = n % 256 := by
        rw [UInt8.toNat_ofNat', Nat.mod_eq_of_lt (Nat.mod_lt _ (by decide))]
      rw [littleEndian, ofLittleEndian, ih, hbyte, Nat.pow_succ, Nat.mul_comm (256 ^ width) 256,
        Nat.mod_mul]

theorem ofLittleEndian_littleEndian_of_lt {width n : Nat} (h : n < 256 ^ width) :
    ofLittleEndian (littleEndian width n) = n := by
  rw [ofLittleEndian_littleEndian, Nat.mod_eq_of_lt h]

theorem littleEndian_ofLittleEndian (bs : Bytes) :
    littleEndian bs.length (ofLittleEndian bs) = bs := by
  induction bs with
  | nil => rfl
  | cons b bs ih =>
      have hlow : (b.toNat + 256 * ofLittleEndian bs) % 256 = b.toNat := by
        rw [Nat.add_mul_mod_self_left, Nat.mod_eq_of_lt b.toNat_lt]
      have hhigh : (b.toNat + 256 * ofLittleEndian bs) / 256 = ofLittleEndian bs := by
        rw [Nat.add_mul_div_left _ _ (by decide), Nat.div_eq_of_lt b.toNat_lt, Nat.zero_add]
      rw [List.length_cons, ofLittleEndian, littleEndian, hlow, hhigh, ih, UInt8.ofNat_toNat]

theorem ofLittleEndian_lt (bs : Bytes) : ofLittleEndian bs < 256 ^ bs.length := by
  induction bs with
  | nil => exact Nat.one_pos
  | cons b bs ih =>
      have hbyte : b.toNat < 256 := b.toNat_lt
      rw [List.length_cons, ofLittleEndian, Nat.pow_succ]
      omega

theorem take?_append {n : Nat} {front rest : Bytes} (h : front.length = n) :
    take? n (front ++ rest) = some (front, rest) := by
  subst h
  simp [take?]

theorem take?_eq_some_iff {n : Nat} {bs front rest : Bytes} :
    take? n bs = some (front, rest) ↔ bs = front ++ rest ∧ front.length = n := by
  constructor
  · intro h
    simp only [take?] at h
    split at h
    · rename_i hlength
      cases h
      exact ⟨(List.take_append_drop n bs).symm, hlength⟩
    · cases h
  · rintro ⟨rfl, hlength⟩
    exact take?_append hlength

theorem length_of_take? {n : Nat} {bs front rest : Bytes} (h : take? n bs = some (front, rest)) :
    n + rest.length = bs.length := by
  obtain ⟨rfl, rfl⟩ := take?_eq_some_iff.mp h
  exact List.length_append.symm

/-! ### Texts -/

/-- The bytes of an array from a place on, behind those that are read already, latest first. -/
theorem toList_loop (bs : ByteArray) (i : Nat) (done : List UInt8) :
    ByteArray.toList.loop bs i done = done.reverse ++ bs.data.toList.drop i := by
  fun_induction ByteArray.toList.loop bs i done with
  | case1 i done h ih =>
      have hi : i < bs.data.toList.length := by simpa using h
      have hget : bs.get! i = bs.data.toList[i] := by
        rw [ByteArray.get!, getElem!_pos bs.data i (by simpa using h), Array.getElem_toList]
      rw [ih, List.drop_eq_getElem_cons hi, hget]
      simp
  | case2 i done h =>
      have hi : bs.data.toList.length ≤ i := by simpa using h
      rw [List.drop_eq_nil_of_le hi, List.append_nil]

theorem ofText_eq (s : String) : ofText s = s.toByteArray.data.toList := by
  simp [ofText, ByteArray.toList, toList_loop]

theorem toText?_ofText (s : String) : toText? (ofText s) = some s := by
  rw [ofText_eq, toText?, String.fromUTF8?, Array.toArray_toList, dif_pos s.isValidUTF8]
  rfl

theorem ofText_of_toText? {bs : Bytes} {s : String} (h : toText? bs = some s) : ofText s = bs := by
  rw [toText?, String.fromUTF8?] at h
  split at h
  · cases h
    rw [ofText_eq]
    rfl
  · cases h

theorem length_ofText (s : String) : (ofText s).length = s.utf8ByteSize := by
  rw [ofText_eq]
  rfl

theorem length_ofText_append (s t : String) :
    (ofText (s ++ t)).length = (ofText s).length + (ofText t).length := by
  rw [length_ofText, length_ofText, length_ofText, String.utf8ByteSize_append]

end CallSite.Bytes
