import CallSite.Address
import Mathlib.Algebra.Ring.Int.Defs

/-!
# Moving an address

Whether an address can be moved, and where it lies then, is read off the exact sum of the two
numbers: nothing wraps at either end.
-/

namespace CallSite.Address

theorem le_shift?_iff {a : Address} {offset : Int64} {target : Address}
    (h : a.shift? offset = some target) (other : Address) :
    other ≤ target ↔ (other.value.toNat : Int) ≤ a.value.toNat + offset.toInt := by
  rw [shift?] at h
  split at h
  · rename_i hrange
    cases h
    have hsize : ((a.value.toNat : Int) + offset.toInt).toNat < UInt64.size := by omega
    show other.value ≤ UInt64.ofNat _ ↔ _
    rw [UInt64.le_iff_toNat_le, UInt64.toNat_ofNat_of_lt' hsize]
    omega
  · cases h

theorem shift?_eq_none {a : Address} {offset : Int64} :
    a.shift? offset = none ↔
      (a.value.toNat : Int) + offset.toInt < 0 ∨
        2 ^ 64 ≤ (a.value.toNat : Int) + offset.toInt := by
  have hsize : (UInt64.size : Int) = 2 ^ 64 := rfl
  rw [shift?]
  by_cases h : 0 ≤ (a.value.toNat : Int) + offset.toInt ∧
      (a.value.toNat : Int) + offset.toInt < UInt64.size
  · simp only [if_pos h, reduceCtorEq, false_iff]
    omega
  · simp only [if_neg h, true_iff]
    omega

end CallSite.Address
