import CallSite.Dwarf.Listing
import CallSite.Proofs.Nearest

/-!
# Rows that are listed

The rows of all units are gone through once, in the order of the units and of their rows. Each is
listed, or told of by one warning, or neither, whatever the other rows are; and those listed are then
sorted by address so that rows of equal address stay in their order.
-/

namespace CallSite

namespace Enumeration

variable {α : Type}

/-- What an enumeration tells besides its items. -/
def events (e : Enumeration α) : List Event :=
  e.deliveries.filterMap fun
    | .item _ => none
    | .note event => some event

theorem items_append (front back : List (Delivery α)) (fault : Option FeedFault) :
    (⟨front ++ back, fault⟩ : Enumeration α).items =
      (⟨front, fault⟩ : Enumeration α).items ++ (⟨back, fault⟩ : Enumeration α).items :=
  List.filterMap_append

theorem events_append (front back : List (Delivery α)) (fault : Option FeedFault) :
    (⟨front ++ back, fault⟩ : Enumeration α).events =
      (⟨front, fault⟩ : Enumeration α).events ++ (⟨back, fault⟩ : Enumeration α).events :=
  List.filterMap_append

@[simp]
theorem items_notes (events : List Event) (fault : Option FeedFault) :
    (⟨events.map .note, fault⟩ : Enumeration α).items = [] := by
  simp [items]

@[simp]
theorem events_notes (told : List Event) (fault : Option FeedFault) :
    (⟨told.map .note, fault⟩ : Enumeration α).events = told := by
  simp [events, List.filterMap_map]

@[simp]
theorem items_items (kept : List α) (fault : Option FeedFault) :
    (⟨kept.map .item, fault⟩ : Enumeration α).items = kept := by
  simp [items, List.filterMap_map]

@[simp]
theorem events_items (kept : List α) (fault : Option FeedFault) :
    (⟨kept.map .item, fault⟩ : Enumeration α).events = [] := by
  simp [events]

end Enumeration

namespace Dwarf

/-- All rows, each with the container of its unit. -/
def Units.rows (us : Units) : List (String × UnitRow) :=
  us.units.flatMap fun u => u.rows.map fun row => (u.container, row)

/-! ### One row -/

/-- What a row adds to those listed and to the warnings: a row that belongs to no line adds neither,
one of a line adds a warning if its file is not known. -/
inductive UnitRow.Adds (container : String) (row : UnitRow) : List FeedRow → List Event → Prop where
  | ending (h : row.endsSequence = true) : Adds container row [] []
  | lineless (h : row.line = 0) : Adds container row [] []
  | missing (hends : row.endsSequence = false) (hline : row.line ≠ 0) (hfile : row.file = .missing) :
      Adds container row [] [.rowWithoutFile row.address row.line]
  | unreadable (hends : row.endsSequence = false) (hline : row.line ≠ 0)
      (hfile : row.file = .unreadable) :
      Adds container row [] [.rowSkipped row.address row.line pathFault]
  | listed (hends : row.endsSequence = false) (hline : row.line ≠ 0) {path : String}
      (hfile : row.file = .path path) :
      Adds container row [⟨⟨row.address⟩, row.line, path, container⟩] []

/-- What is delivered for a row, as an enumeration of its own. -/
def UnitRow.alone (container : String) (row : UnitRow) : Enumeration FeedRow :=
  ⟨(row.deliver container).toList, none⟩

section Row

variable {container : String} {row : UnitRow} {kept kept' : List FeedRow}
  {warnings warnings' : List Event}

theorem UnitRow.adds_alone (container : String) (row : UnitRow) :
    row.Adds container (row.alone container).items (row.alone container).events := by
  rw [alone, deliver]
  by_cases hends : row.endsSequence = true
  · simp only [hends, Bool.true_or, if_true]
    exact .ending hends
  by_cases hline : row.line = 0
  · simp only [hline, decide_true, Bool.or_true, if_true]
    exact .lineless hline
  rw [Bool.not_eq_true] at hends
  simp only [hends, hline, Bool.false_or, decide_false, Bool.false_eq_true, if_false]
  cases hfile : row.file with
  | missing => exact .missing hends hline hfile
  | unreadable => exact .unreadable hends hline hfile
  | path path => exact .listed hends hline hfile

theorem UnitRow.Adds.eq_alone (h : row.Adds container kept warnings) :
    kept = (row.alone container).items ∧ warnings = (row.alone container).events := by
  rw [alone, deliver]
  cases h with
  | ending hends => simp [hends, Enumeration.items, Enumeration.events]
  | lineless hline => simp [hline, Enumeration.items, Enumeration.events]
  | missing hends hline hfile => simp [hends, hline, hfile, Enumeration.items, Enumeration.events]
  | unreadable hends hline hfile =>
      simp [hends, hline, hfile, Enumeration.items, Enumeration.events]
  | listed hends hline hfile => simp [hends, hline, hfile, Enumeration.items, Enumeration.events]

theorem UnitRow.Adds.unique (h : row.Adds container kept warnings)
    (h' : row.Adds container kept' warnings') : kept = kept' ∧ warnings = warnings' := by
  obtain ⟨rfl, rfl⟩ := h.eq_alone
  obtain ⟨rfl, rfl⟩ := h'.eq_alone
  exact ⟨rfl, rfl⟩

/-- A row that is not listed is told of once, if it belongs to a line. -/
theorem UnitRow.Adds.length_warnings (h : row.Adds container [] warnings) :
    warnings.length = if row.endsSequence = true ∨ row.line = 0 then 0 else 1 := by
  cases h with
  | ending hends => simp [hends]
  | lineless hline => simp [hline]
  | missing hends hline _ => simp [hends, hline]
  | unreadable hends hline _ => simp [hends, hline]

end Row

/-! ### All rows -/

/-- What rows add one after another. -/
inductive Sifted : List (String × UnitRow) → List FeedRow → List Event → Prop where
  | nil : Sifted [] [] []
  | cons {container row rows kept warnings kept' warnings'} :
      UnitRow.Adds container row kept warnings → Sifted rows kept' warnings' →
      Sifted ((container, row) :: rows) (kept ++ kept') (warnings ++ warnings')

theorem deliveries_eq (us : Units) :
    deliveries us.units = us.rows.filterMap fun entry => entry.2.deliver entry.1 := by
  simp only [deliveries, Units.rows, List.filterMap_flatMap, List.filterMap_map]
  rfl

theorem sifted_delivered (rows : List (String × UnitRow)) :
    Sifted rows
      (⟨rows.filterMap fun entry => entry.2.deliver entry.1, none⟩ : Enumeration FeedRow).items
      (⟨rows.filterMap fun entry => entry.2.deliver entry.1, none⟩ : Enumeration FeedRow).events := by
  induction rows with
  | nil => exact .nil
  | cons entry rows ih =>
      have hcons : (entry :: rows).filterMap (fun entry => entry.2.deliver entry.1) =
          (entry.2.deliver entry.1).toList ++ rows.filterMap fun entry => entry.2.deliver entry.1 := by
        rw [List.filterMap_cons]
        cases entry.2.deliver entry.1 <;> rfl
      rw [hcons, Enumeration.items_append, Enumeration.events_append]
      exact .cons (entry.2.adds_alone entry.1) ih

theorem sifted_units (us : Units) : Sifted us.rows us.kept us.told := by
  have htold : us.told = (⟨deliveries us.units, none⟩ : Enumeration FeedRow).events := by
    refine List.filterMap_congr fun d _ => ?_
    cases d <;> rfl
  rw [htold, Units.kept, deliveries_eq]
  exact sifted_delivered us.rows

/-- Without a row that is not listed the others are listed as they were, and only its own warning is
not told. -/
theorem Sifted.erase {front back : List (String × UnitRow)} {container : String} {row : UnitRow}
    {kept : List FeedRow} {warnings lost : List Event}
    (h : Sifted (front ++ (container, row) :: back) kept warnings)
    (hlost : row.Adds container [] lost) :
    ∃ before after, warnings = before ++ lost ++ after ∧
      Sifted (front ++ back) kept (before ++ after) := by
  induction front generalizing kept warnings with
  | nil =>
      cases h with
      | cons hrow hback =>
          obtain ⟨rfl, rfl⟩ := hrow.unique hlost
          exact ⟨[], _, rfl, hback⟩
  | cons entry front ih =>
      cases h with
      | @cons _ _ _ _ first _ _ hrow hrest =>
          obtain ⟨before, after, rfl, hsifted⟩ := ih hrest
          refine ⟨first ++ before, after, by simp only [List.append_assoc], ?_⟩
          rw [List.append_assoc]
          exact .cons hrow hsifted

/-! ### The listing -/

/-- An enumeration delivers the rows of units that belong to a line and have a known file, sorted by
address, and tells of those whose file is not known. -/
structure Units.ListedAs (us : Units) (e : Enumeration FeedRow) : Prop where
  sifted : Sifted us.rows us.kept us.told
  sorted : StablySorted FeedRow.address e.items us.kept
  events : e.events = us.told ++ [.rowsListed us.kept.length]
  /-- A row that is not listed is told of at most once, and costs no other row. -/
  erase : ∀ front container row back lost, us.rows = front ++ (container, row) :: back →
    row.Adds container [] lost →
      lost.length = (if row.endsSequence = true ∨ row.line = 0 then 0 else 1) ∧
        ∃ before after, us.told = before ++ lost ++ after ∧
          Sifted (front ++ back) us.kept (before ++ after)

theorem listedAs_listing {us : Units} (h : us.fault = none) : us.ListedAs us.listing where
  sifted := sifted_units us
  sorted := by
    simp only [Units.listing, h, Enumeration.items_append, Enumeration.items_notes,
      Enumeration.items_items, List.nil_append]
    exact stablySorted_mergeSort us.kept
  events := by
    simp only [Units.listing, h, Enumeration.events_append, Enumeration.events_notes,
      Enumeration.events_items, List.append_nil]
  erase front container row back lost hrows hlost := by
    have hsifted := sifted_units us
    rw [hrows] at hsifted
    exact ⟨hlost.length_warnings, hsifted.erase hlost⟩

end Dwarf

end CallSite
