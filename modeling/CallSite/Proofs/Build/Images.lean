import CallSite.Image
import CallSite.Proofs.Atlas.Tracks
import CallSite.Proofs.Build.Extraction
import CallSite.Proofs.Dwarf.Rows

/-!
# Atlases of images

The rows of an image come in the order of their addresses, and leaving rows out does not change
their order. So the track of an atlas that is collected from an image is in order, and the mark that
covers an address is the nearest one, the last of those at its address in the order of the units.
-/

namespace CallSite

section Ordered

variable {before : Atlas} {path : String} {feed : Feed} {kept : List FeedRow}
  (h : (collect before path feed).fault = none) (hrows : StablySorted FeedRow.address feed.rows.items kept)
include h hrows

/-- Rows in order are marked in order. -/
theorem sorted_collect : (collect before path feed).atlas.track.sorted = true := by
  rw [Track.sorted_iff, (extracted_collect h).marks, List.pairwise_map]
  exact (hrows.filter fun row => row.Usable).ascending

theorem floor_collect_eq_some_iff (target : Address) (m : Mark) :
    (collect before path feed).atlas.track.floor target = some m ↔
      ∃ row, Nearest FeedRow.address (kept.filter fun row => row.Usable) target row ∧
        m = (collect before path feed).atlas.mark row.reading := by
  have hplace : ∀ row : FeedRow,
      Mark.address ((collect before path feed).atlas.mark row.reading) = row.address := fun _ => rfl
  rw [Track.floor_eq_some_iff_nearest (sorted_collect h hrows), (extracted_collect h).marks,
    nearest_map hplace]
  simp only [Feed.usableRows, (hrows.filter fun row => row.Usable).nearest_iff]

theorem floor_collect_eq_none_iff (target : Address) :
    (collect before path feed).atlas.track.floor target = none ↔
      ∀ row ∈ kept, row.Usable → ¬ row.address ≤ target := by
  rw [Track.floor_eq_none_iff, (extracted_collect h).marks, List.forall_mem_map]
  simp only [Feed.usableRows, List.mem_filter, decide_eq_true_eq, and_imp, hrows.perm.mem_iff]
  rfl

end Ordered

namespace Image

theorem fault_symbols (image : Image) : image.symbols.fault = none := by
  rw [symbols, ObjectFile.symbolListing]
  split <;> rfl

theorem fault_collect {image : Image} (before : Atlas) (path : String)
    (h : image.rows.fault = none) :
    (collect before path image.feed).fault = none := by
  have hsymbols : image.feed.symbols.fault = none := image.fault_symbols
  have hrows : image.feed.rows.fault = none := h
  rw [collect_fault, hsymbols, hrows]
  rfl

/--
If the rows of an image can be listed, the listing has those of all units that belong to a line and
have a known file, stably sorted by address. A build collects them into a track that is in order, where
the mark that covers an address is of the nearest usable row up to it, and of rows at one address of
the last in the order of units and of their rows.
-/
theorem collect_ordered (image : Image) (b : Build) (h : image.rows.fault = none) :
    (Dwarf.units image.sections).ListedAs image.rows ∧
      (b.collect image.feed).2.fault = none ∧
      (b.collect image.feed).1.atlas.track.sorted = true ∧
      ∀ target,
        ((b.collect image.feed).1.atlas.track.floor target = none ↔
          ∀ row ∈ (Dwarf.units image.sections).kept, row.Usable → ¬ row.address ≤ target) ∧
        ∀ m, (b.collect image.feed).1.atlas.track.floor target = some m ↔
          ∃ row, Nearest FeedRow.address
              ((Dwarf.units image.sections).kept.filter fun row => row.Usable) target row ∧
            m = (b.collect image.feed).1.atlas.mark row.reading := by
  have hunits : (Dwarf.units image.sections).fault = none := by
    rw [rows, Dwarf.Units.listing] at h
    cases hfault : (Dwarf.units image.sections).fault with
    | none => rfl
    | some fault => simp [hfault] at h
  have hlisted : (Dwarf.units image.sections).ListedAs image.rows := Dwarf.listedAs_listing hunits
  have hcollect := image.fault_collect b.atlas b.path.text h
  refine ⟨hlisted, hcollect, sorted_collect hcollect hlisted.sorted, fun target => ⟨?_, ?_⟩⟩
  · exact floor_collect_eq_none_iff hcollect hlisted.sorted target
  · exact floor_collect_eq_some_iff hcollect hlisted.sorted target

/-! ### Units that interleave -/

/-- A line table with one file, of which the last part is the program. -/
def sampleTable (length fileName : UInt8) (program : Bytes) : Bytes :=
  [length, 0, 0, 0, 5, 0, 8, 0, 33, 0, 0, 0, 1, 1, 1, 0xfb, 14, 13, 0, 1, 1, 1, 1, 0, 0, 0, 1, 0, 0,
    1, 1, 1, 8, 1, 47, 115, 0, 1, 1, 8, 1, fileName, 46, 99, 0] ++ program

/-- A unit with a line table at an offset. -/
def sampleUnit (offset name : UInt8) : Bytes :=
  [15, 0, 0, 0, 5, 0, 1, 8, 0, 0, 0, 0, 1, offset, 0, 0, 0, name, 0]

/-- Two units of one file each. The first begins with a row whose file is not known and ends with one
without a line; the second has a row before and one at the address of the others. -/
def interleavedSections : Dwarf.DebugSections where
  order := .little
  abbreviations := .ofBytes [1, 0x11, 0, 0x10, 0x17, 3, 8, 0, 0, 0]
  addresses := .empty
  info := .ofBytes (sampleUnit 0 97 ++ sampleUnit 71 98)
  lines := .ofBytes
    (sampleTable 67 97 [0, 9, 2, 0, 0x20, 0, 0, 0, 0, 0, 0, 1, 4, 0, 1, 3, 1, 1, 3, 0x7e, 1, 2, 4, 0,
        1, 1] ++
      sampleTable 74 98 [0, 9, 2, 0, 0x10, 0, 0, 0, 0, 0, 0, 4, 0, 1, 0, 9, 2, 0, 0x20, 0, 0, 0, 0, 0,
        0, 3, 6, 1, 2, 4, 0, 1, 1])
  lineStrings := .empty
  strings := .empty
  stringOffsets := .empty

def interleavedImage : Image :=
  ⟨"app", ⟨.little, [], fun _ => [], [], []⟩, interleavedSections⟩

def interleavedBuild : Build :=
  ⟨⟨"app"⟩, .default, .empty⟩

theorem collect_ordered_interleaved :
    interleavedImage.rows.fault = none ∧
      (Dwarf.units interleavedImage.sections).kept = [⟨⟨0x2000⟩, 1, "/s/a.c", "a"⟩,
        ⟨⟨0x2000⟩, 2, "/s/a.c", "a"⟩, ⟨⟨0x1000⟩, 1, "/s/b.c", "b"⟩, ⟨⟨0x2000⟩, 7, "/s/b.c", "b"⟩] ∧
      interleavedImage.rows.events = [.rowWithoutFile 0x2000 1, .rowsListed 4] ∧
      (interleavedBuild.collect interleavedImage.feed).1.atlas.track.sorted = true ∧
      (interleavedBuild.collect interleavedImage.feed).1.atlas.track.floor ⟨0xfff⟩ = none ∧
      (interleavedBuild.collect interleavedImage.feed).1.atlas.track.floor ⟨0x2003⟩ =
        some ((interleavedBuild.collect interleavedImage.feed).1.atlas.mark
          ⟨⟨0x2000⟩, 7, ".../s/b.c", "b"⟩) := by
  have hfault : interleavedImage.rows.fault = none := by decide +kernel
  have hkept : (Dwarf.units interleavedImage.sections).kept = [⟨⟨0x2000⟩, 1, "/s/a.c", "a"⟩,
      ⟨⟨0x2000⟩, 2, "/s/a.c", "a"⟩, ⟨⟨0x1000⟩, 1, "/s/b.c", "b"⟩,
      ⟨⟨0x2000⟩, 7, "/s/b.c", "b"⟩] := by decide +kernel
  have htold : (Dwarf.units interleavedImage.sections).told = [.rowWithoutFile 0x2000 1] := by
    decide +kernel
  have hreading : (FeedRow.mk ⟨0x2000⟩ 7 "/s/b.c" "b").reading =
      ⟨⟨0x2000⟩, 7, ".../s/b.c", "b"⟩ := by decide +kernel
  obtain ⟨hlisted, -, hsorted, hfloor⟩ :=
    interleavedImage.collect_ordered interleavedBuild hfault
  have hevents := hlisted.events
  rw [hkept] at hfloor hevents
  refine ⟨hfault, hkept, ?_, hsorted, (hfloor ⟨0xfff⟩).1.mpr (by decide +kernel), ?_⟩
  · rw [hevents, htold]
    rfl
  · rw [← hreading]
    refine ((hfloor ⟨0x2003⟩).2 _).mpr ⟨_, ?_, rfl⟩
    exact ⟨by decide +kernel, by decide +kernel, by decide +kernel⟩

end Image

end CallSite
