import Mathlib.Data.List.Dedup

/-!
# Lists that grow by what is new

Putting a value at the end of a list that does not have it keeps the list free of repetitions. So a
list that grew this way has as many entries as there are different values in what it grew from.
-/

namespace CallSite

variable {α : Type} [DecidableEq α]

/-- The list with a value at its end, unless it has the value already. -/
def appendNew (xs : List α) (a : α) : List α :=
  if a ∈ xs then xs else xs ++ [a]

theorem prefix_appendNew (xs : List α) (a : α) : xs <+: appendNew xs a := by
  rw [appendNew]
  split
  · exact List.prefix_refl xs
  · exact List.prefix_append xs [a]

theorem mem_appendNew {xs : List α} {a b : α} : b ∈ appendNew xs a ↔ b ∈ xs ∨ b = a := by
  rw [appendNew]
  by_cases h : a ∈ xs
  · rw [if_pos h]
    constructor
    · intro hb
      exact .inl hb
    · rintro (hb | rfl)
      · exact hb
      · exact h
  · rw [if_neg h, List.mem_append, List.mem_singleton]

theorem nodup_appendNew {xs : List α} (h : xs.Nodup) (a : α) : (appendNew xs a).Nodup := by
  rw [appendNew]
  by_cases hmem : a ∈ xs
  · rwa [if_pos hmem]
  · rw [if_neg hmem]
    apply List.nodup_append.mpr
    refine ⟨h, List.nodup_singleton a, ?_⟩
    intro b hb c hc heq
    rw [List.mem_singleton] at hc
    subst hc
    subst heq
    exact hmem hb

/-- A list without repetitions is as long as any other with the same values is without them. -/
theorem length_eq_of_nodup {xs ys : List α} (h : xs.Nodup) (hmem : ∀ a, a ∈ xs ↔ a ∈ ys) :
    xs.length = ys.dedup.length := by
  have hperm : xs.Perm ys.dedup := by
    apply (List.perm_ext_iff_of_nodup h ys.nodup_dedup).mpr
    intro a
    rw [List.mem_dedup, hmem]
  exact hperm.length_eq

/-! ### Growing by many values -/

theorem nodup_foldl_appendNew {xs : List α} (h : xs.Nodup) (ys : List α) :
    (ys.foldl appendNew xs).Nodup := by
  induction ys generalizing xs with
  | nil => exact h
  | cons y ys ih => exact ih (nodup_appendNew h y)

theorem mem_foldl_appendNew {xs ys : List α} {a : α} :
    a ∈ ys.foldl appendNew xs ↔ a ∈ xs ∨ a ∈ ys := by
  induction ys generalizing xs with
  | nil => simp
  | cons y ys ih => rw [List.foldl_cons, ih, mem_appendNew, List.mem_cons, or_assoc]

/-- What is new comes after the list, each value at the place of its first occurrence. -/
theorem foldl_appendNew_eq (xs ys : List α) :
    ys.foldl appendNew xs = xs ++ (ys.filter fun a => a ∉ xs).eraseDups := by
  induction ys generalizing xs with
  | nil => simp
  | cons y ys ih =>
      rw [List.foldl_cons, ih, appendNew]
      by_cases hmem : y ∈ xs
      · simp [hmem]
      · have hfilter : (ys.filter fun a => a ∉ xs ++ [y]) =
            (ys.filter fun a => a ∉ xs).filter fun a => !a == y := by
          rw [List.filter_filter]
          apply List.filter_congr
          intro a _
          by_cases heq : a = y <;> simp [heq, hmem]
        rw [if_neg hmem, hfilter, List.filter_cons_of_pos (by simpa using hmem),
          List.eraseDups_cons, List.append_assoc]
        rfl

theorem foldl_appendNew_nil (ys : List α) : ys.foldl appendNew [] = ys.eraseDups := by
  simp [foldl_appendNew_eq]

/-- Values that come twice each are put into a list once each, if they are all new. -/
theorem foldl_appendNew_twice {xs ys : List α} (h : (xs ++ ys).Nodup) :
    (ys.flatMap fun y => [y, y]).foldl appendNew xs = xs ++ ys := by
  induction ys generalizing xs with
  | nil => simp
  | cons y ys ih =>
      have hnew : y ∉ xs := fun hy =>
        (List.nodup_append.mp h).2.2 y hy y List.mem_cons_self rfl
      have hfirst : appendNew xs y = xs ++ [y] := if_neg hnew
      have hsecond : appendNew (xs ++ [y]) y = xs ++ [y] := if_pos (by simp)
      rw [List.append_cons] at h
      rw [List.flatMap_cons, List.foldl_append, List.foldl_cons, List.foldl_cons, List.foldl_nil,
        hfirst, hsecond, ih h, ← List.append_cons]

theorem length_foldl_appendNew (ys : List α) : (ys.foldl appendNew []).length = ys.dedup.length := by
  apply length_eq_of_nodup (nodup_foldl_appendNew List.nodup_nil ys)
  intro a
  simp [mem_foldl_appendNew]

end CallSite
