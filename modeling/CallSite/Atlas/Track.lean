import CallSite.Address
import CallSite.Atlas.NamePool

/-!
# Marks along the code

A mark says that the code from its address on belongs to a line. A track keeps marks in the order
in which they came and knows whether their addresses never decrease; the search for the mark that
covers an address chooses its strategy by that.
-/

namespace CallSite

structure Mark where
  address : Address
  line : UInt32
  file : NameIndex
  object : NameIndex
deriving DecidableEq

structure Track where
  marks : Array Mark
  sorted : Bool
  sorted_iff : sorted = true ↔ marks.toList.Pairwise fun a b => a.address ≤ b.address
deriving DecidableEq

namespace Track

def empty : Track := ⟨#[], true, by simp⟩

theorem pairwise_append_of_getLast? {xs : List Mark} {m : Mark} :
    ((xs ++ [m]).Pairwise fun a b => a.address ≤ b.address) ↔
      (xs.Pairwise fun a b => a.address ≤ b.address) ∧
        ∀ last, xs.getLast? = some last → last.address ≤ m.address := by
  rw [List.pairwise_append]
  constructor
  · rintro ⟨hxs, -, h⟩
    exact ⟨hxs, fun last hlast => h last (List.mem_of_getLast? hlast) m (by simp)⟩
  · rintro ⟨hxs, h⟩
    refine ⟨hxs, by simp, fun a ha b hb => ?_⟩
    obtain rfl := List.mem_singleton.mp hb
    obtain ⟨init, last, rfl⟩ : ∃ init last, xs = init ++ [last] := by
      rcases List.eq_nil_or_concat xs with rfl | ⟨init, last, rfl⟩
      · cases ha
      · exact ⟨init, last, by simp⟩
    have hlast : last.address ≤ b.address := h last (by simp)
    rcases List.mem_append.mp ha with ha | ha
    · have hle := (List.pairwise_append.mp hxs).2.2 a ha last (by simp)
      exact UInt64.le_trans hle hlast
    · obtain rfl := List.mem_singleton.mp ha
      exact hlast

/-- Order is kept as long as no new mark lies before the last one. -/
def push (track : Track) (m : Mark) : Track where
  marks := track.marks.push m
  sorted := track.sorted && track.marks.back?.all fun last => decide (last.address ≤ m.address)
  sorted_iff := by
    rw [Array.toList_push, pairwise_append_of_getLast?, Bool.and_eq_true, track.sorted_iff,
      ← Array.getLast?_toList]
    cases track.marks.toList.getLast? <;> simp

/-- No mark lies before its neighbour. -/
def ascending : List Mark → Bool
  | a :: b :: rest => decide (a.address ≤ b.address) && ascending (b :: rest)
  | _ => true

theorem ascending_iff (marks : List Mark) :
    ascending marks = true ↔ marks.Pairwise fun a b => a.address ≤ b.address := by
  induction marks with
  | nil => simp [ascending]
  | cons a rest ih =>
      cases rest with
      | nil => simp [ascending]
      | cons b rest =>
          rw [ascending, Bool.and_eq_true, ih, decide_eq_true_iff]
          constructor
          · rintro ⟨hab, h⟩
            refine List.pairwise_cons.mpr ⟨fun c hc => ?_, h⟩
            rcases List.mem_cons.mp hc with rfl | hc
            · exact hab
            · exact UInt64.le_trans hab ((List.pairwise_cons.mp h).1 c hc)
          · intro h
            obtain ⟨ha, h⟩ := List.pairwise_cons.mp h
            exact ⟨ha b List.mem_cons_self, h⟩

def ofList (marks : List Mark) : Track where
  marks := marks.toArray
  sorted := ascending marks
  sorted_iff := ascending_iff marks

/-- The marks are dropped, and with them that they were out of order. -/
def clear (_ : Track) : Track where
  marks := #[]
  sorted := true
  sorted_iff := by simp

def size (track : Track) : Nat :=
  track.marks.size

/--
The number of marks before the first that lies above the target, by halving the stretch from `low`
to `high`, if the marks up to `low` lie at or below the target and those from `high` on above it.
-/
def countUpTo (marks : Array Mark) (target : Address) (low high : Nat)
    (bound : high ≤ marks.size) : Nat :=
  if h : low < high then
    let middle := (low + high) / 2
    have hmiddle : middle < high := by omega
    have hsize : middle < marks.size := by omega
    if marks[middle].address ≤ target then
      countUpTo marks target (middle + 1) high bound
    else
      countUpTo marks target low middle (by omega)
  else low
termination_by high - low

/-- The last mark that lies at or below an address. -/
def floor (track : Track) (target : Address) : Option Mark :=
  if track.sorted then
    match countUpTo track.marks target 0 track.marks.size (Nat.le_refl _) with
    | 0 => none
    | position + 1 => track.marks[position]?
  else
    track.marks.toList.reverse.find? (·.address ≤ target)

end Track

end CallSite
