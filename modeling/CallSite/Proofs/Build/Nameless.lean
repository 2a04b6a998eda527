import CallSite.Proofs.Build.Answers
import CallSite.Proofs.SourcePath

/-!
# Rows that name no file

Only a row without any path is rejected for the want of a file, before its path is shortened. A path
that is a directory and the separator behind it passes, although its shortened form is empty: such
rows, and they alone, are read back without a file.
-/

namespace CallSite

namespace FeedRow

def position (row : FeedRow) : Position :=
  ⟨row.line.toUInt32, SourcePath.shorten row.file⟩

/-- Shortening leaves something of every path that is of use but the nameless ones. -/
theorem shorten_eq_empty_iff {row : FeedRow} (h : row.Usable) :
    SourcePath.shorten row.file = "" ↔ SourcePath.Nameless row.file := by
  rw [SourcePath.shorten_eq_empty_iff]
  exact or_iff_right h.2.1

end FeedRow

namespace Feed

theorem usable_of_mem {feed : Feed} {row : FeedRow} (h : row ∈ feed.usableRows) : row.Usable := by
  rw [usableRows] at h
  exact of_decide_eq_true (List.mem_filter.mp h).2

/-- Every position of a feed is that of one of its usable rows. -/
theorem exists_of_position {feed : Feed} {id : SymbolId} {offset : Int64} {p : Position}
    (h : feed.position id offset = some p) : ∃ row ∈ feed.usableRows, p = row.position := by
  rw [position] at h
  split at h
  · cases h
  · simp only at h
    split at h
    · cases h
    · obtain ⟨row, hrow, rfl⟩ := Option.map_eq_some_iff.mp h
      obtain ⟨hmem, hrow⟩ := List.mem_filter.mp (List.mem_of_getLast? hrow)
      have husable : row.Usable := (of_decide_eq_true hrow).1
      exact ⟨row, List.mem_filter.mpr ⟨hmem, decide_eq_true husable⟩, rfl⟩

end Feed

/--
A collection without a fault marks every usable row, and what it marks reads without a file exactly if
the path of the row was nameless. An answer is without a file exactly if it comes from such a row.
-/
theorem Build.file_eq_empty_iff_nameless (b : Build) {feed : Feed}
    (h : (b.collect feed).2.fault = none)
    (hnames : feed.names.dedup.length ≤ NamePool.capacity) :
    List.Forall₂ (fun row (r : Reading) => r.file = "" ↔ SourcePath.Nameless row.file)
        feed.usableRows (b.collect feed).1.atlas.readings ∧
      ∀ id offset p, (b.collect feed).1.atlas.locate id offset = some p →
        ∃ row ∈ feed.usableRows, p = row.position ∧
          (p.file = "" ↔ SourcePath.Nameless row.file) := by
  have hreadings : (b.collect feed).1.atlas.readings = feed.usableRows.map FeedRow.reading :=
    collect_readings h hnames
  have hlocate : ∀ id offset, (b.collect feed).1.atlas.locate id offset = feed.position id offset :=
    locate_collect h hnames
  constructor
  · rw [hreadings, List.forall₂_map_right_iff, List.forall₂_same]
    intro row hrow
    exact FeedRow.shorten_eq_empty_iff (Feed.usable_of_mem hrow)
  · intro id offset p hp
    rw [hlocate] at hp
    obtain ⟨row, hrow, rfl⟩ := Feed.exists_of_position hp
    exact ⟨row, hrow, rfl, FeedRow.shorten_eq_empty_iff (Feed.usable_of_mem hrow)⟩

/-! ### A row of a directory -/

/-- The first row is of a directory and is of use, the second is of nothing at all and is not. -/
def directoryFeed : Feed where
  symbols := .ofItems [⟨⟨7⟩, "main", ⟨16⟩, true⟩]
  rows := .ofItems [⟨⟨16⟩, 3, "src/", "unit"⟩, ⟨⟨17⟩, 4, "", "unit"⟩,
    ⟨⟨32⟩, 5, "/src/main.c", "unit"⟩]

theorem Build.file_eq_empty_iff_nameless_directory :
    (∃ first second, (sampleBuild.collect directoryFeed).1.atlas.readings = [first, second] ∧
        first.file = "" ∧ second.file ≠ "") ∧
      ∃ row ∈ directoryFeed.usableRows, row.position = ⟨3, ""⟩ ∧
        SourcePath.Nameless row.file := by
  have hfault : (sampleBuild.collect directoryFeed).2.fault = none := by rfl
  have hnames : directoryFeed.names.dedup.length ≤ NamePool.capacity := by decide
  have hrows : directoryFeed.usableRows =
      [⟨⟨16⟩, 3, "src/", "unit"⟩, ⟨⟨32⟩, 5, "/src/main.c", "unit"⟩] := by
    decide
  have hnameless : SourcePath.Nameless "src/" :=
    ⟨['s', 'r', 'c'], '/', by simp [SourcePath.isSeparator], rfl, by decide⟩
  have hnamed : ¬ SourcePath.Nameless "/src/main.c" := by
    intro hnameless
    have hshort := (SourcePath.shorten_eq_empty_iff "/src/main.c").mpr (.inr hnameless)
    revert hshort
    decide
  have hlocate : (sampleBuild.collect directoryFeed).1.atlas.locate ⟨7⟩ 0 = some ⟨3, ""⟩ := by
    decide +kernel
  obtain ⟨hread, hanswered⟩ := file_eq_empty_iff_nameless sampleBuild hfault hnames
  constructor
  · rw [hrows] at hread
    obtain ⟨first, rest, hfirst, hrest, hreadings⟩ := List.forall₂_cons_left_iff.mp hread
    obtain ⟨second, none, hsecond, hnone, rfl⟩ := List.forall₂_cons_left_iff.mp hrest
    obtain rfl := List.forall₂_nil_left_iff.mp hnone
    exact ⟨first, second, hreadings, hfirst.mpr hnameless, mt hsecond.mp hnamed⟩
  · obtain ⟨row, hrow, hposition, hfile⟩ := hanswered _ _ _ hlocate
    exact ⟨row, hrow, hposition.symm, hfile.mp rfl⟩

/-- A record that names no file is stored and answered, without a fault. -/
theorem Build.exists_file_eq_empty :
    (sampleBuild.collect directoryFeed).2.fault = none ∧
      (⟨⟨16⟩, 3, "", "unit"⟩ : Reading) ∈ (sampleBuild.collect directoryFeed).1.atlas.readings ∧
      (sampleBuild.collect directoryFeed).1.atlas.locate ⟨7⟩ 0 = some ⟨3, ""⟩ := by
  refine ⟨rfl, ?_, ?_⟩ <;> decide +kernel

end CallSite
