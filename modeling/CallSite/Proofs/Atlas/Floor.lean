import CallSite.Atlas.Track
import Mathlib.Data.List.Basic

/-!
# The mark that covers an address

Whichever way a track searches, it finds the last mark that does not lie above the target. Its flag
for order follows from its marks, so a track is rebuilt from them.
-/

namespace CallSite.Track

@[ext]
theorem ext {a b : Track} (h : a.marks = b.marks) : a = b := by
  have hsorted : a.sorted = b.sorted := by
    rw [Bool.eq_iff_iff, a.sorted_iff, b.sorted_iff, h]
  cases a
  cases b
  simp_all

theorem ofList_toList (track : Track) : ofList track.marks.toList = track :=
  ext Array.toArray_toList

@[simp]
theorem toList_marks_push (track : Track) (m : Mark) :
    (track.push m).marks.toList = track.marks.toList ++ [m] :=
  Array.toList_push

/-! ### Halving -/

/-- The marks up to `low` do not lie above the target, and those from `high` on do. -/
structure Bracket (marks : Array Mark) (target : Address) (low high : Nat) : Prop where
  below : ∀ i (h : i < marks.size), i < low → marks[i].address ≤ target
  above : ∀ i (h : i < marks.size), high ≤ i → ¬ marks[i].address ≤ target

theorem address_le_of_sorted {marks : Array Mark}
    (hsorted : marks.toList.Pairwise fun a b => a.address ≤ b.address) {i j : Nat} (hij : i ≤ j)
    (hj : j < marks.size) : marks[i].address ≤ marks[j].address := by
  rcases Nat.lt_or_eq_of_le hij with hlt | rfl
  · have hi : i < marks.toList.length := Nat.lt_trans hlt hj
    exact List.pairwise_iff_getElem.mp hsorted i j hi hj hlt
  · exact UInt64.le_refl _

theorem countUpTo_bracket {marks : Array Mark} {target : Address} {low high : Nat}
    (bound : high ≤ marks.size)
    (hsorted : marks.toList.Pairwise fun a b => a.address ≤ b.address) (hle : low ≤ high)
    (h : Bracket marks target low high) :
    countUpTo marks target low high bound ≤ marks.size ∧
      Bracket marks target (countUpTo marks target low high bound)
        (countUpTo marks target low high bound) := by
  fun_induction countUpTo marks target low high bound with
  | case1 low high bound hlt middle hmiddle hsize hleft ih =>
      refine ih (by omega) ⟨fun i hi him => ?_, h.above⟩
      exact UInt64.le_trans (address_le_of_sorted hsorted (by omega) hsize) hleft
  | case2 low high bound hlt middle hmiddle hsize hright ih =>
      refine ih (by omega) ⟨h.below, fun i hi him hle => hright ?_⟩
      exact UInt64.le_trans (address_le_of_sorted hsorted him hi) hle
  | case3 low high bound hlt =>
      have heq : low = high := by omega
      subst heq
      exact ⟨bound, h⟩

/-- Between the two ends of a bracket without an inside the low marks end. -/
theorem Bracket.filter_eq {marks : Array Mark} {target : Address} {n : Nat}
    (h : Bracket marks target n n) :
    (marks.toList.filter fun m => m.address ≤ target) = marks.toList.take n := by
  have hfront : ((marks.toList.take n).filter fun m => m.address ≤ target) =
      marks.toList.take n := by
    refine List.filter_eq_self.mpr fun m hm => ?_
    obtain ⟨i, hi, rfl⟩ := List.mem_take_iff_getElem.mp hm
    have hn : i < n ∧ i < marks.size := Nat.lt_min.mp hi
    simpa using h.below i hn.2 hn.1
  have hrest : ((marks.toList.drop n).filter fun m => m.address ≤ target) = [] := by
    refine List.filter_eq_nil_iff.mpr fun m hm => ?_
    obtain ⟨i, hi, rfl⟩ := List.mem_drop_iff_getElem.mp hm
    simpa using h.above (n + i) (by simpa [Nat.add_comm] using hi) (by omega)
  rw [← List.take_append_drop n marks.toList, List.filter_append, hfront, hrest,
    List.append_nil, List.take_append_drop]

theorem getLast?_take {marks : List Mark} {n : Nat} (h : n < marks.length) :
    (marks.take (n + 1)).getLast? = marks[n]? := by
  rw [List.getLast?_take]
  simp [h]

/-- Either way of searching finds the last mark that does not lie above the target. -/
theorem floor_eq (track : Track) (target : Address) :
    track.floor target =
      (track.marks.toList.filter fun m => m.address ≤ target).getLast? := by
  rw [floor]
  split
  · rename_i hsorted
    obtain ⟨hsize, hbracket⟩ := countUpTo_bracket (Nat.le_refl _)
      (track.sorted_iff.mp hsorted) (Nat.zero_le _)
      ⟨fun i _ hi => absurd hi (Nat.not_lt_zero i), fun i hi hle => absurd hle (by omega)⟩
    rw [hbracket.filter_eq]
    cases hcount : countUpTo track.marks target 0 track.marks.size (Nat.le_refl _) with
    | zero => simp
    | succ n =>
        rw [hcount] at hsize
        rw [getLast?_take hsize, Array.getElem?_toList]
  · rw [List.getLast?_filter]

end CallSite.Track
