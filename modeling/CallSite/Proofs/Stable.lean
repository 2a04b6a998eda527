import Mathlib.Data.List.Basic

/-!
# Stable sorts

A merge sort leaves what its order does not tell apart as it was. So the items of a class whose members
are all alike keep their places among each other, and an order that the items had before decides
between those that are alike.
-/

namespace CallSite

variable {α : Type} {le : α → α → Bool} (htrans : ∀ a b c, le a b = true → le b c = true → le a c = true)
  (htotal : ∀ a b, (le a b || le b a) = true)
include htrans htotal

/-- A class of items that are in order whichever comes first is the same list as before. -/
theorem filter_mergeSort {p : α → Bool} (hp : ∀ a b, p a = true → p b = true → le a b = true)
    (items : List α) : (items.mergeSort le).filter p = items.filter p := by
  have hclass : (items.filter p).Pairwise fun a b => le a b = true :=
    List.pairwise_of_forall_mem_list fun a ha b hb =>
      hp a b (List.mem_filter.mp ha).2 (List.mem_filter.mp hb).2
  have hsublist := (List.sublist_mergeSort htrans htotal hclass List.filter_sublist).filter p
  simp only [List.filter_filter, Bool.and_self] at hsublist
  exact (hsublist.eq_of_length ((List.mergeSort_perm items le).filter p).length_eq.symm).symm

/-- An order that the items had before decides between items that are alike. -/
theorem pairwise_mergeSort_of_pairwise {R : α → α → Prop} {items : List α} (h : items.Pairwise R) :
    (items.mergeSort le).Pairwise fun a b => le a b = true ∧ (le b a = true → R a b) := by
  have hsorted := List.pairwise_mergeSort htrans htotal items
  rw [List.pairwise_iff_forall_sublist] at hsorted h ⊢
  intro a b hab
  refine ⟨hsorted hab, fun hba => h ?_⟩
  -- Both are in the class of what is like the first, which the sort leaves as it was.
  let p : α → Bool := fun c => le a c && le c a
  have hself (c : α) : le c c = true := by simpa using htotal c c
  have hclass (c d : α) (hc : p c = true) (hd : p d = true) : le c d = true :=
    htrans c a d (Bool.and_eq_true_iff.mp hc).2 (Bool.and_eq_true_iff.mp hd).1
  have hpair : [a, b].filter p = [a, b] := by simp [p, hself, hsorted hab, hba]
  have hkept := hab.filter p
  rw [hpair, filter_mergeSort htrans htotal hclass] at hkept
  exact hkept.trans List.filter_sublist

end CallSite
