import CallSite.Proofs.Atlas.Register
import CallSite.Proofs.Build.Collection

/-!
# Atlases that change step by step

Symbols, marks and rows are put into an atlas in any order, and it may be emptied in between. The
same steps on a plain register keep a list of what was said and the last symbol of each identifier,
with no names shared and no order minded. After any steps the atlas amounts to that register.
-/

namespace CallSite

inductive AtlasStep where
  | symbol (s : Symbol)
  | mark (line : UInt32) (address : Address) (file object : String)
  | row (row : FeedRow)
  | clear

namespace Atlas

/-- A row that is of no use is told of by its rejection and adds nothing. -/
def step (atlas : Atlas) : AtlasStep → Atlas
  | .symbol s => (atlas.addSymbol s).1
  | .mark line address file object => (atlas.addMark line address file object).1
  | .row row =>
      match atlas.addRow row with
      | .ok later => later
      | .error _ => atlas
  | .clear => atlas.clear

/-- The atlas that steps make of an empty one. -/
def run (steps : List AtlasStep) : Atlas :=
  steps.foldl step .empty

end Atlas

namespace Register

def empty : Register :=
  ⟨[], fun _ => none⟩

def step (r : Register) : AtlasStep → Register
  | .symbol s => { r with symbol := fun id => if s.id = id then some s else r.symbol id }
  | .mark line address file object =>
      { r with readings := r.readings ++ [⟨address, line, file, object⟩] }
  | .row row =>
      if row.file ≠ "" ∧ row.line.toNat < UInt32.size then
        { r with readings := r.readings ++ [row.reading] }
      else r
  | .clear => empty

def run (steps : List AtlasStep) : Register :=
  steps.foldl step empty

/-- The names that are said, with repetitions. -/
def names (r : Register) : List String :=
  r.readings.flatMap Reading.names

end Register

namespace Atlas

/-! ### One step -/

theorem step_row_of_rejected {row : FeedRow} (h : row.file = "" ∨ UInt32.size ≤ row.line.toNat)
    (atlas : Atlas) : atlas.step (.row row) = atlas := by
  have hreason : row.rejection? ≠ none := by
    rw [Ne, FeedRow.rejection?_eq_none]
    rintro ⟨hfile, hline⟩
    rcases h with h | h
    · exact hfile h
    · exact Nat.not_lt.mpr h hline
  obtain ⟨reason, hreason⟩ := Option.ne_none_iff_exists'.mp hreason
  simp only [step, addRow, hreason]

theorem step_row_of_accepted {row : FeedRow}
    (h : row.file ≠ "" ∧ row.line.toNat < UInt32.size) (atlas : Atlas) :
    atlas.step (.row row) = atlas.markRow row := by
  simp only [step, addRow, FeedRow.rejection?_eq_none.mpr h]
  rfl

/-- The atlas has the marks of the readings and the symbols of a register. -/
structure Follows (atlas : Atlas) (r : Register) : Prop where
  records : atlas.Records r.readings
  symbols : atlas.symbols.get? = r.symbol

theorem follows_empty : empty.Follows .empty where
  records := records_empty
  symbols := by
    funext id
    exact SymbolIndex.get?_empty id

theorem Follows.step {atlas : Atlas} {r : Register} (h : atlas.Follows r) (change : AtlasStep) :
    (atlas.step change).Follows (r.step change) := by
  cases change with
  | symbol s =>
      refine ⟨⟨h.records.names, h.records.marks⟩, ?_⟩
      funext id
      rw [Atlas.step, Register.step, ← h.symbols]
      exact SymbolIndex.get?_insert atlas.symbols s id
  | mark line address file object =>
      exact ⟨h.records.addMark line address file object, h.symbols⟩
  | row row =>
      rw [Register.step]
      by_cases hrow : row.file ≠ "" ∧ row.line.toNat < UInt32.size
      · rw [step_row_of_accepted hrow, if_pos hrow]
        exact ⟨h.records.addMark _ _ _ _, h.symbols⟩
      · have hrejected : row.file = "" ∨ UInt32.size ≤ row.line.toNat := by
          rcases not_and_or.mp hrow with hfile | hline
          · exact .inl (not_not.mp hfile)
          · exact .inr (Nat.not_lt.mp hline)
        rw [step_row_of_rejected hrejected, if_neg hrow]
        exact h
  | clear =>
      rw [Atlas.step, clear_eq]
      exact follows_empty

/-! ### All steps -/

theorem Follows.foldl_step {atlas : Atlas} {r : Register} (h : atlas.Follows r)
    (steps : List AtlasStep) : (steps.foldl Atlas.step atlas).Follows (steps.foldl Register.step r) := by
  induction steps generalizing atlas r with
  | nil => exact h
  | cons change rest ih => exact ih (h.step change)

/--
After any steps an atlas amounts to the register that the same steps keep, as long as indices can tell
its names apart: every mark reads as it was added and a call site lies where the register says. Both
indices of every mark lead to names, no name stands twice, and a row that is rejected changes nothing.
-/
theorem register_run (steps : List AtlasStep)
    (hnames : (Register.run steps).names.dedup.length ≤ NamePool.capacity) :
    (run steps).register = Register.run steps ∧
      (∀ id offset, (run steps).locate id offset = (Register.run steps).locate id offset) ∧
      (run steps).Legible ∧
      (run steps).pool.names.Nodup ∧
      ∀ row : FeedRow, row.file = "" ∨ UInt32.size ≤ row.line.toNat →
        run (steps ++ [.row row]) = run steps := by
  have hfollows : (run steps).Follows (Register.run steps) := follows_empty.foldl_step steps
  have hsize : (run steps).pool.size ≤ NamePool.capacity := by
    rw [NamePool.size, hfollows.records.names, ← foldl_appendNew_nil, length_foldl_appendNew]
    exact hnames
  have hregister : (run steps).register = Register.run steps := by
    rw [register, hfollows.records.readings_eq hsize, hfollows.symbols]
  refine ⟨hregister, ?_, hfollows.records.legible hsize, hfollows.records.nodup_names, ?_⟩
  · intro id offset
    rw [locate_eq, hregister]
  · intro row hrow
    rw [run, List.foldl_append]
    exact step_row_of_rejected hrow (run steps)

end Atlas

/-! ### Steps of every kind -/

/-- What comes before the atlas is emptied leaves no trace, though it uses the same names. -/
def sampleSteps : List AtlasStep :=
  [.symbol ⟨⟨7⟩, "old", ⟨8⟩⟩, .mark 1 ⟨8⟩ "old.c" "main.c", .clear, .symbol ⟨⟨7⟩, "main", ⟨16⟩⟩,
    .mark 5 ⟨40⟩ "main.c" "unit", .row ⟨⟨17⟩, 4, "", "gone"⟩, .row ⟨⟨17⟩, 3, "src/main.c", "main.c"⟩,
    .mark 9 ⟨24⟩ "far.c" "unit"]

theorem Atlas.register_run_sample :
    (Register.run sampleSteps).names.dedup.length ≤ NamePool.capacity ∧
      (Atlas.run sampleSteps).readings =
        [⟨⟨40⟩, 5, "main.c", "unit"⟩, ⟨⟨17⟩, 3, "main.c", "main.c"⟩, ⟨⟨24⟩, 9, "far.c", "unit"⟩] ∧
      (Atlas.run sampleSteps).locate ⟨7⟩ 4 = some ⟨3, "main.c"⟩ := by
  have hnames : (Register.run sampleSteps).names.dedup.length ≤ NamePool.capacity := by
    decide +kernel
  obtain ⟨hregister, hlocate, -⟩ := Atlas.register_run sampleSteps hnames
  refine ⟨hnames, ?_, ?_⟩
  · exact (congrArg Register.readings hregister).trans rfl
  · rw [hlocate]
    rfl

end CallSite
