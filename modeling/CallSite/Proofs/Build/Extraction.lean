import CallSite.Build.Basic
import CallSite.Proofs.Build.Collection
import CallSite.Proofs.SourcePath.Shortening

/-!
# What a build takes from a feed

What a build has after collecting is said by the lists of the feed alone, whatever it had before. A
fault of the feed leaves it nothing; without one it has the last function symbol of each identifier,
a mark for each usable row, and the names of these rows once each, in the order in which they came
first. A mark reads as its row as long as its names are among those that indices can tell apart.
-/

namespace CallSite

/-- The atlas holds what the lists of the feed say, and nothing else. -/
structure Feed.Extracted (feed : Feed) (atlas : Atlas) : Prop where
  symbols : ∀ id, atlas.symbols.get? id = (feed.functions.filter (·.id = id)).getLast?
  names : atlas.pool.names = feed.names.eraseDups
  marks : atlas.track.marks.toList = feed.usableRows.map fun row => atlas.mark row.reading
  /-- The mark of a row reads as the row, unless a name of it comes after all that indices can tell
  apart. -/
  reading_mark : ∀ row ∈ feed.usableRows,
    (∀ name ∈ row.names, atlas.pool.names.idxOf name < NamePool.capacity) →
      atlas.reading (atlas.mark row.reading) = row.reading

theorem extracted_collect {before : Atlas} {path : String} {feed : Feed}
    (h : (collect before path feed).fault = none) :
    feed.Extracted (collect before path feed).atlas where
  symbols := collect_get? h
  names := collect_names h
  marks := by
    rw [(collect_records h).marks, List.map_map]
    rfl
  reading_mark row hrow := (collect_records h).reading_mark (List.mem_map_of_mem hrow)

/-- Rows are not asked for after a fault of the symbols, so that fault comes before theirs. -/
theorem collect_fault (before : Atlas) (path : String) (feed : Feed) :
    (collect before path feed).fault =
      match feed.symbols.fault with
      | some fault => some (.symbols fault.message)
      | none => feed.rows.fault.map fun fault => .rows fault.message := by
  rw [collect, Collection.ofFeed]
  cases feed.symbols.fault <;> rfl

theorem collect_atlas_of_fault {before : Atlas} {path : String} {feed : Feed} {fault : Fault}
    (h : (collect before path feed).fault = some fault) :
    (collect before path feed).atlas = .empty := by
  have hfault : (Collection.ofFeed .empty feed).2 = some fault := h
  simp [collect, hfault]

/-- Collecting tells the fault of the feed and leaves nothing, or leaves what the lists of the feed
say. -/
theorem Build.collect_extracted (b : Build) (feed : Feed) :
    match feed.symbols.fault, feed.rows.fault with
    | some fault, _ =>
        (b.collect feed).2.fault = some (.symbols fault.message) ∧
          (b.collect feed).1.atlas = .empty
    | none, some fault =>
        (b.collect feed).2.fault = some (.rows fault.message) ∧ (b.collect feed).1.atlas = .empty
    | none, none => (b.collect feed).2.fault = none ∧ feed.Extracted (b.collect feed).1.atlas := by
  have hfault := collect_fault b.atlas b.path.text feed
  cases hsymbols : feed.symbols.fault with
  | some fault =>
      rw [hsymbols] at hfault
      exact ⟨hfault, collect_atlas_of_fault hfault⟩
  | none =>
      cases hrows : feed.rows.fault with
      | some fault =>
          rw [hsymbols, hrows] at hfault
          exact ⟨hfault, collect_atlas_of_fault hfault⟩
      | none =>
          rw [hsymbols, hrows] at hfault
          exact ⟨hfault, extracted_collect hfault⟩

/-! ### A build that collects again -/

/-- A hidden row and one without a file, and a name that is of a file and of an object. -/
def repeatingFeed : Feed where
  symbols := .ofItems [⟨⟨7⟩, "old", ⟨16⟩, true⟩, ⟨⟨7⟩, "main", ⟨32⟩, true⟩,
    ⟨⟨7⟩, "data", ⟨64⟩, false⟩]
  rows := .ofItems [⟨⟨36⟩, 9, "src/main.c", "main.c"⟩, ⟨⟨33⟩, hiddenLine, "gone.c", "gone"⟩,
    ⟨⟨34⟩, 3, "", "gone"⟩, ⟨⟨32⟩, 3, "/src/a/b/main.c", "unit"⟩, ⟨⟨40⟩, 4, "main.c", "unit"⟩]

/-- A build with a mark that it has from before. -/
def usedBuild : Build :=
  ⟨⟨"app"⟩, .default, (Atlas.empty.addMark 1 ⟨8⟩ "old.c" "old").1⟩

theorem Build.collect_extracted_again :
    (usedBuild.collect repeatingFeed).1.atlas.pool.names = ["main.c", ".../a/b/main.c", "unit"] ∧
      (usedBuild.collect repeatingFeed).1.atlas.symbols.get? ⟨7⟩ = some ⟨⟨7⟩, "main", ⟨32⟩⟩ ∧
      (usedBuild.collect repeatingFeed).1.atlas.readings =
        [⟨⟨36⟩, 9, "main.c", "main.c"⟩, ⟨⟨32⟩, 3, ".../a/b/main.c", "unit"⟩,
          ⟨⟨40⟩, 4, "main.c", "unit"⟩] := by
  obtain ⟨-, hextracted⟩ := usedBuild.collect_extracted repeatingFeed
  have hnames : (usedBuild.collect repeatingFeed).1.atlas.pool.names =
      ["main.c", ".../a/b/main.c", "unit"] := by
    rw [hextracted.names]
    decide +kernel
  have hread : ∀ row ∈ repeatingFeed.usableRows,
      (usedBuild.collect repeatingFeed).1.atlas.reading
        ((usedBuild.collect repeatingFeed).1.atlas.mark row.reading) = row.reading := by
    intro row hrow
    apply hextracted.reading_mark row hrow
    rw [hnames]
    intro name _
    exact Nat.lt_of_le_of_lt List.idxOf_le_length (by decide)
  refine ⟨hnames, ?_, ?_⟩
  · rw [hextracted.symbols]
    rfl
  · rw [Atlas.readings, hextracted.marks, List.map_map]
    exact (List.map_congr_left hread).trans rfl

/-! ### More names than indices -/

/-- The row of a place, with a name of its own. -/
def countedRow (i : Nat) : FeedRow :=
  ⟨⟨0⟩, 1, i.repr, i.repr⟩

/-- As many rows as a count says, each from a file and a container of its own, named alike. -/
def countedFeed (count : Nat) : Feed where
  symbols := .ofItems []
  rows := .ofItems ((List.range count).map countedRow)

/-- A number has no separator in it. -/
theorem shorten_repr (i : Nat) : SourcePath.shorten i.repr = i.repr := by
  have hdigit : ∀ c ∈ i.repr.toList, SourcePath.isSeparator c = false := by
    intro c hc
    rw [Nat.toList_repr] at hc
    have hrange := Nat.isDigit_of_mem_toDigits (by decide) (by decide) hc
    rw [SourcePath.isSeparator, Bool.or_eq_false_iff, decide_eq_false_iff_not,
      decide_eq_false_iff_not]
    constructor <;> rintro rfl <;> exact absurd hrange (by decide)
  rw [SourcePath.shorten, (SourcePath.Short.lone hdigit).shortenChars_eq]
  exact String.ofList_toList

/-- No number is written like another one. -/
theorem nodup_reprs (count : Nat) : ((List.range count).map Nat.repr).Nodup := by
  let value (name : String) : Nat := Nat.ofDigitChars 10 name.toList 0
  have hleft : Function.LeftInverse value Nat.repr := by
    intro i
    simp [value, Nat.toList_repr]
  exact List.nodup_range.map hleft.injective

theorem usable_countedRow (i : Nat) : (countedRow i).Usable := by
  have hline : (1 : UInt64) ≠ hiddenLine ∧ (1 : UInt64).toNat < UInt32.size := by decide
  exact ⟨hline.1, Nat.repr_ne_empty, hline.2⟩

theorem names_countedRow (i : Nat) : (countedRow i).names = [i.repr, i.repr] := by
  rw [FeedRow.names, countedRow, shorten_repr]

section Counted

variable (count : Nat)

theorem usableRows_countedFeed :
    (countedFeed count).usableRows = (List.range count).map countedRow := by
  have hitems : (countedFeed count).rows.items = (List.range count).map countedRow :=
    Enumeration.items_ofItems _
  rw [Feed.usableRows, hitems, List.filter_eq_self]
  rintro row hrow
  obtain ⟨i, -, rfl⟩ := List.mem_map.mp hrow
  exact decide_eq_true (usable_countedRow i)

theorem names_countedFeed :
    (countedFeed count).names.eraseDups = (List.range count).map Nat.repr := by
  have hnodup := nodup_reprs count
  have hpairs : (countedFeed count).names =
      ((List.range count).map Nat.repr).flatMap fun name => [name, name] := by
    rw [Feed.names, usableRows_countedFeed, List.flatMap_map, List.flatMap_map]
    simp only [names_countedRow]
  rw [hpairs, ← foldl_appendNew_nil, foldl_appendNew_twice hnodup, List.nil_append]

theorem fault_collect_countedFeed (b : Build) :
    (b.collect (countedFeed count)).2.fault = none :=
  collect_fault b.atlas b.path.text _

theorem extracted_countedFeed (b : Build) :
    (countedFeed count).Extracted (b.collect (countedFeed count)).1.atlas :=
  extracted_collect (fault_collect_countedFeed count b)

theorem names_collect_countedFeed (b : Build) :
    (b.collect (countedFeed count)).1.atlas.pool.names = (List.range count).map Nat.repr := by
  rw [(extracted_countedFeed count b).names, names_countedFeed]

variable {count}

/-- The index of a name leads to the name, or to the last one with an index of its own. -/
theorem get_indexIn_countedFeed (b : Build) {i : Nat} (h : i < count) :
    (b.collect (countedFeed count)).1.atlas.pool.get
      ((b.collect (countedFeed count)).1.atlas.pool.indexIn i.repr) =
        (min i (NamePool.capacity - 1)).repr := by
  have hnames := names_collect_countedFeed count b
  have hplace : ((List.range count).map Nat.repr).idxOf i.repr = i := by
    have hindex := (nodup_reprs count).idxOf_getElem i (by simpa using h)
    simpa using hindex
  have hlast : min i (NamePool.capacity - 1) < count := by omega
  rw [NamePool.indexIn, NamePool.get_indexOf, hnames, hplace]
  simp [hlast]

/-- Every row is marked, and the mark reads as the row or as the last one with indices of its own. -/
theorem Build.readings_countedFeed (b : Build) :
    (b.collect (countedFeed count)).1.atlas.readings =
      (List.range count).map fun i => (countedRow (min i (NamePool.capacity - 1))).reading := by
  rw [Atlas.readings, (extracted_countedFeed count b).marks, usableRows_countedFeed, List.map_map,
    List.map_map]
  apply List.map_congr_left
  intro i hi
  have hget := get_indexIn_countedFeed b (List.mem_range.mp hi)
  simp only [Function.comp_apply, FeedRow.reading, countedRow, shorten_repr, Atlas.reading,
    Atlas.mark, Atlas.file, Atlas.object, hget]

end Counted

/-- Nothing fails, and yet a mark does not read as the row it is for: both names of the row are the
first without an index of their own. -/
theorem Build.exists_reading_lost :
    (usedBuild.collect (countedFeed 2147483649)).2.fault = none ∧
      (countedFeed 2147483649).usableRows[2147483648]? =
        some ⟨⟨0⟩, 1, "2147483648", "2147483648"⟩ ∧
      (usedBuild.collect (countedFeed 2147483649)).1.atlas.readings[2147483648]? =
        some ⟨⟨0⟩, 1, "2147483647", "2147483647"⟩ := by
  -- The list of the rows is too long to be evaluated, so its entry is told by its place.
  have hlast : (List.range 2147483649)[2147483648]? = some 2147483648 :=
    List.getElem?_range (by decide)
  refine ⟨fault_collect_countedFeed 2147483649 usedBuild, ?_, ?_⟩
  · rw [usableRows_countedFeed, List.getElem?_map, hlast]
    rfl
  · rw [readings_countedFeed, List.getElem?_map, hlast]
    simp only [Option.map_some, countedRow, FeedRow.reading, shorten_repr]
    rfl

end CallSite
