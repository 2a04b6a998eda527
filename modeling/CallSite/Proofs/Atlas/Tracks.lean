import CallSite.Proofs.Atlas.Floor
import CallSite.Proofs.Nearest

/-!
# Tracks that grow

A track is empty or made of a list at first; marks are pushed onto it, and it may be cleared. Its flag
and its answers follow from the marks that it then holds: a search finds the last of them up to a
target, which is the nearest one if they are in order.
-/

namespace CallSite.Track

/-- A track that was made step by step, and the marks that the steps say it holds. -/
inductive Made : Track → List Mark → Prop where
  | empty : Made .empty []
  | ofList (marks : List Mark) : Made (.ofList marks) marks
  | push {track : Track} {marks : List Mark} (h : Made track marks) (m : Mark) :
      Made (track.push m) (marks ++ [m])
  | clear {track : Track} {marks : List Mark} (h : Made track marks) : Made track.clear []

theorem Made.toList_marks {track : Track} {marks : List Mark} (h : Made track marks) :
    track.marks.toList = marks := by
  induction h with
  | empty => rfl
  | ofList marks => rfl
  | push _ m ih => rw [toList_marks_push, ih]
  | clear => rfl

/-- Either way of searching finds the last mark up to the target. -/
theorem floor_eq_some_iff {track : Track} {target : Address} {m : Mark} :
    track.floor target = some m ↔ LastUpTo Mark.address track.marks.toList target m := by
  rw [floor_eq]
  exact getLast?_filter_eq_some_iff

theorem floor_eq_none_iff {track : Track} {target : Address} :
    track.floor target = none ↔ ∀ m ∈ track.marks.toList, ¬ m.address ≤ target := by
  rw [floor_eq, List.getLast?_eq_none_iff, List.filter_eq_nil_iff]
  simp only [decide_eq_true_eq]

/-- In order, the last mark up to the target is the nearest one. -/
theorem floor_eq_some_iff_nearest {track : Track} (hsorted : track.sorted = true)
    {target : Address} {m : Mark} :
    track.floor target = some m ↔ Nearest Mark.address track.marks.toList target m :=
  floor_eq_some_iff.trans (lastUpTo_iff_nearest (track.sorted_iff.mp hsorted))

/--
However a track was made, its flag says whether its marks are in order, and a search finds the last of
them up to a target, or none only if all lie above it. In order, that is the mark of the greatest
address up to the target, and the last one there.
-/
theorem floor_of_made {track : Track} {marks : List Mark} (h : Made track marks) :
    (track.sorted = true ↔ marks.Pairwise fun a b => a.address ≤ b.address) ∧
      ∀ target,
        (track.floor target = none ↔ ∀ m ∈ marks, ¬ m.address ≤ target) ∧
          ∀ m, (track.floor target = some m ↔ LastUpTo Mark.address marks target m) ∧
            (track.sorted = true →
              (track.floor target = some m ↔ Nearest Mark.address marks target m)) := by
  obtain rfl := h.toList_marks
  refine ⟨track.sorted_iff, fun target => ⟨floor_eq_none_iff, fun m => ⟨floor_eq_some_iff, ?_⟩⟩⟩
  intro hsorted
  exact floor_eq_some_iff_nearest hsorted

/-! ### A track that lost its order and was cleared -/

def markAt (address : UInt64) (line : UInt32) : Mark :=
  ⟨⟨address⟩, line, 0, 1⟩

theorem floor_of_made_again :
    ∃ lost again : Track,
      Made lost [markAt 30 1, markAt 10 2, markAt 20 3] ∧
        Made again [markAt 10 4, markAt 20 5, markAt 20 6, markAt 35 7] ∧
        lost.sorted = false ∧ lost.floor ⟨15⟩ = some (markAt 10 2) ∧ lost.floor ⟨5⟩ = none ∧
        again.sorted = true ∧ again.floor ⟨25⟩ = some (markAt 20 6) := by
  have hlost : Made _ [markAt 30 1, markAt 10 2, markAt 20 3] :=
    ((Made.ofList [markAt 30 1]).push (markAt 10 2)).push (markAt 20 3)
  have hagain : Made _ [markAt 10 4, markAt 20 5, markAt 20 6, markAt 35 7] :=
    (((hlost.clear.push (markAt 10 4)).push (markAt 20 5)).push (markAt 20 6)).push (markAt 35 7)
  obtain ⟨hlostSorted, hlostFloor⟩ := floor_of_made hlost
  obtain ⟨hagainSorted, hagainFloor⟩ := floor_of_made hagain
  have hsorted := hagainSorted.mpr (by decide)
  refine ⟨_, _, hlost, hagain, ?_, ?_, ?_, hsorted, ?_⟩
  · rw [Bool.eq_false_iff, Ne, hlostSorted]
    decide
  · exact ((hlostFloor ⟨15⟩).2 _).1.mpr ⟨[markAt 30 1], [markAt 20 3], rfl, by decide, by decide⟩
  · exact (hlostFloor ⟨5⟩).1.mpr (by decide)
  · exact (((hagainFloor ⟨25⟩).2 _).2 hsorted).mpr ⟨by decide, by decide, by decide⟩

end CallSite.Track
