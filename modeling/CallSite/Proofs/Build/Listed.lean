import CallSite.Proofs.Atlas.Latest
import CallSite.Proofs.Build.Images
import CallSite.Proofs.Build.Telling
import CallSite.Proofs.FileStore.Walking
import CallSite.Proofs.Object.Listing

/-!
# Symbols of images that are kept

The symbols of an image have different identifiers, so none of them replaces another: an atlas that
is collected from the image has each of its functions once, under the place that it has in its table.
-/

namespace CallSite

/-! ### Feeds without a repeated identifier -/

/-- A symbol replaces another one only if one before it has its identifier. -/
theorem exists_of_mem_warnings {earlier : List FeedSymbol} {s : FeedSymbol} {previous : Symbol}
    (h : .duplicateSymbol previous ∈ s.warnings earlier) : ∃ t ∈ earlier, t.id = s.id := by
  rw [FeedSymbol.warnings] at h
  split at h
  · obtain ⟨_, hlast, -⟩ := Option.map_eq_some_iff.mp (Option.mem_toList.mp h)
    obtain ⟨t, ht, -⟩ := Option.map_eq_some_iff.mp hlast
    obtain ⟨hmem, hsame⟩ := List.mem_filter.mp (List.mem_of_getLast? ht)
    exact ⟨t, hmem, (of_decide_eq_true hsame).2⟩
  · cases h

theorem not_mem_warnings_row {earlier : List FeedRow} {row : FeedRow} {previous : Symbol} :
    .duplicateSymbol previous ∉ row.warnings earlier := by
  rw [FeedRow.warnings]
  split
  · exact List.not_mem_nil
  · split <;> simp

section Feed

variable {feed : Feed} (hids : (feed.symbols.items.map FeedSymbol.id).Nodup)
include hids

theorem nodup_functions : (feed.functions.map Symbol.id).Nodup := by
  rw [Feed.functions, List.map_map]
  exact hids.sublist (List.filter_sublist.map _)

/-- Symbols of different identifiers tell of none that is replaced. -/
theorem duplicateSymbol_not_mem_events (b : Build) {previous : Symbol}
    (hsymbols : .note (.duplicateSymbol previous) ∉ feed.symbols.deliveries)
    (hrows : .note (.duplicateSymbol previous) ∉ feed.rows.deliveries) :
    .duplicateSymbol previous ∉ (b.collect feed).2.events := by
  have hevents : (b.collect feed).2.events = feed.told ++
      ((b.collect feed).2.fault.map (Event.collectionFailed b.path.text)).toList ++
      [.symbolsKept (b.collect feed).2.atlas.symbols.size,
        .linesKept (b.collect feed).2.atlas.track.size,
        .namesKept (b.collect feed).2.atlas.pool.size] := by
    rw [← Collection.told_ofFeed]
    rfl
  have hasked : .note (.duplicateSymbol previous) ∉ feed.askedRows.deliveries := by
    rw [Feed.askedRows]
    cases feed.symbols.fault with
    | some fault => exact List.not_mem_nil
    | none => exact hrows
  rw [hevents, Feed.told]
  simp only [List.mem_append, not_or]
  refine ⟨⟨⟨fun h => ?_, fun h => ?_⟩, ?_⟩, by simp⟩
  · rcases mem_toldAfter h feed.symbols.fault with hnote | ⟨front, s, hfront, hevent⟩
    · exact hsymbols hnote
    · -- what is told here names a symbol that came before, and that has another identifier
      obtain ⟨t, ht, hsame⟩ := exists_of_mem_warnings hevent
      have hnodup := hids.sublist (hfront.sublist.map _)
      rw [List.map_append, List.nodup_append] at hnodup
      exact hnodup.2.2 _ (List.mem_map_of_mem ht) _ (by simp) hsame
  · rcases mem_toldAfter h feed.askedRows.fault with hnote | ⟨front, row, -, hevent⟩
    · exact hasked hnote
    · exact not_mem_warnings_row hevent
  · cases (b.collect feed).2.fault <;> simp

/-- The index has each function of the feed once, and nothing else. -/
theorem entries_collect_perm {before : Atlas} {path : String}
    (h : (collect before path feed).fault = none) :
    (collect before path feed).atlas.symbols.entries.Perm feed.functions := by
  have hindex : (collect before path feed).atlas.symbols = .ofList feed.functions := by
    rw [collect_atlas h, Atlas.symbols_foldl_markRow, Atlas.foldl_addSymbol]
    rfl
  rw [hindex]
  exact SymbolIndex.entries_ofList_perm (nodup_functions hids)

end Feed

/-! ### Images -/

namespace Dwarf

/-- What is told while rows are listed is of the rows. -/
theorem note_mem_listing {us : Units} {event : Event} (h : .note event ∈ us.listing.deliveries) :
    event ∈ us.told ∨ event = .rowsListed us.kept.length := by
  rw [Units.listing] at h
  cases hfault : us.fault with
  | some fault =>
    simp only [hfault] at h
    exact .inl (by simpa using h)
  | none =>
    simp only [hfault] at h
    simpa using h

theorem duplicateSymbol_not_mem_told (us : Units) (previous : Symbol) :
    .duplicateSymbol previous ∉ us.told := by
  intro h
  obtain ⟨delivery, hdelivery, hnote⟩ := List.mem_filterMap.mp h
  cases delivery with
  | item row => cases hnote
  | note event =>
    cases hnote
    obtain ⟨u, -, hu⟩ := List.mem_flatMap.mp hdelivery
    obtain ⟨row, -, hrow⟩ := List.mem_filterMap.mp hu
    rw [UnitRow.deliver] at hrow
    split at hrow
    · cases hrow
    · split at hrow <;> cases hrow

end Dwarf

namespace Image

variable {image : Image}

/-- The tables of every image that bytes hold are numbered. -/
theorem numbered_of_ofBytes? {path : String} {bs : Bytes} (h : ofBytes? path bs = .ok image) :
    image.file.TablesNumbered := by
  rw [ofBytes?] at h
  split at h
  case h_1 => cases h
  case h_2 file hread =>
    simp only [bind_eq_ok] at h
    obtain ⟨_, -, _, -, _, -, _, -, _, -, _, -, _, -, _, -, _, -, h⟩ := h
    cases h
    exact ObjectFile.numbered_of_read? hread

theorem nodup_symbols (h : image.file.TablesNumbered) :
    (image.symbols.items.map FeedSymbol.id).Nodup := by
  have hlisted := ObjectFile.forall₂_filterMap_listed h.listedTable.lt_size
  rw [← items_symbols] at hlisted
  have hplaces : image.symbols.items.map (fun s => s.id.value.toNat) =
      (image.file.listedTable.filter fun e => e.Named).map ObjectSymbol.index := by
    rw [← List.forall₂_eq_eq_eq, List.forall₂_map_left_iff, List.forall₂_map_right_iff]
    exact hlisted.imp fun _ _ hs => hs.id_eq
  have hnodup : (image.symbols.items.map fun s => s.id.value.toNat).Nodup := by
    rw [hplaces]
    exact h.listedTable.nodup.sublist (List.filter_sublist.map _)
  apply List.Nodup.of_map fun id : SymbolId => id.value.toNat
  rwa [List.map_map]

/-- No symbol of an image is told to be replaced. -/
theorem duplicateSymbol_not_mem (h : image.file.TablesNumbered) (b : Build) (previous : Symbol) :
    .duplicateSymbol previous ∉ (b.collect image.feed).2.events := by
  have hids : (image.feed.symbols.items.map FeedSymbol.id).Nodup := nodup_symbols h
  apply duplicateSymbol_not_mem_events hids
  · intro hnote
    rcases image.note_mem_symbols hnote with hevent | ⟨_, hevent⟩ <;> cases hevent
  · intro hnote
    rcases Dwarf.note_mem_listing hnote with htold | hevent
    · exact Dwarf.duplicateSymbol_not_mem_told _ previous htold
    · cases hevent

/-- The index that is collected finds a function that is listed at the place of its entry. -/
theorem get?_collect_of_named (h : image.file.TablesNumbered) {before : Atlas}
    {path : String} (hfault : (collect before path image.feed).fault = none) {e : ObjectSymbol}
    (he : e ∈ image.file.listedTable) (hfunction : e.isFunction = true) {name : String}
    (hname : e.name = some name) (hne : name ≠ "") {id : SymbolId} (hid : id.value.toNat = e.index) :
    (collect before path image.feed).atlas.symbols.get? id =
      some ⟨id, Demangle.demangle name, ⟨e.address⟩⟩ := by
  obtain ⟨s, hs⟩ := Option.isSome_iff_exists.mp
    ((ObjectFile.listed_isSome_iff e).mpr ⟨name, hname, hne⟩)
  have hlisted := ObjectFile.listedFor_of_listed hs (h.listedTable.lt_size e he)
  have hmem : s ∈ image.symbols.items := by
    rw [items_symbols]
    exact List.mem_filterMap.mpr ⟨e, he, hs⟩
  have hkept : s.symbol ∈ image.feed.functions :=
    List.mem_map_of_mem (List.mem_filter.mpr ⟨hmem, hlisted.isFunction_eq.trans hfunction⟩)
  have hentry := (entries_collect_perm (nodup_symbols h) hfault).mem_iff.mpr hkept
  have hsame : s.id = id := by
    apply SymbolIndex.id_eq_of_value_eq
    rw [← UInt64.toNat_inj, hlisted.id_eq, hid]
  obtain ⟨_, hother, hdemangled⟩ := hlisted.name_eq
  rw [hname] at hother
  cases hother
  have hsymbol : s.symbol = ⟨id, Demangle.demangle name, ⟨e.address⟩⟩ := by
    rw [FeedSymbol.symbol, hsame, hdemangled, hlisted.address_eq]
  have hget := SymbolIndex.mem_entries_iff.mp hentry
  rw [hsymbol] at hget
  exact hget

/--
In every image that is opened, the entries of each table have places of their own. From that it follows
that the symbols that the image lists are those of the named entries of one table, in their turn, each
identified by its place. So they have different identifiers and none replaces another: a build that
collects the image has each function that is listed once, and finds it at its place.
-/
theorem collect_listed (image : Image) (b : Build) :
    (∀ path bs, ofBytes? path bs = .ok image → image.file.TablesNumbered) ∧
    (image.file.TablesNumbered →
      image.symbols.fault = none ∧
      List.Forall₂ FeedSymbol.ListedFor image.symbols.items
        (image.file.listedTable.filter fun e => e.Named) ∧
      (image.symbols.items.map FeedSymbol.id).Nodup ∧
      (∀ previous, .duplicateSymbol previous ∉ (b.collect image.feed).2.events) ∧
      ((b.collect image.feed).2.fault = none →
        (b.collect image.feed).1.atlas.symbols.entries.Perm
            ((image.symbols.items.filter (·.isFunction)).map FeedSymbol.symbol) ∧
          ∀ e ∈ image.file.listedTable, e.isFunction = true → ∀ name, e.name = some name →
            name ≠ "" → ∀ id : SymbolId, id.value.toNat = e.index →
              (b.collect image.feed).1.atlas.symbols.get? id =
                some ⟨id, Demangle.demangle name, ⟨e.address⟩⟩)) := by
  refine ⟨fun path bs hopened => numbered_of_ofBytes? hopened, fun h => ?_⟩
  refine ⟨image.fault_symbols, ?_, nodup_symbols h, duplicateSymbol_not_mem h b, fun hfault => ?_⟩
  · rw [items_symbols]
    exact ObjectFile.forall₂_filterMap_listed h.listedTable.lt_size
  · refine ⟨entries_collect_perm (nodup_symbols h) hfault, ?_⟩
    intro e he hfunction name hname hne id hid
    exact get?_collect_of_named h hfault he hfunction hname hne hid

/-! ### Tables that number their entries alike -/

/-- An entry whose name cannot be read, and one whose name is empty. -/
def namelessTable : List ObjectSymbol :=
  [⟨1, none, 16, true⟩, ⟨2, some "", 32, true⟩]

def dataTable : List ObjectSymbol :=
  [⟨1, none, 16, true⟩, ⟨2, some "table", 96, false⟩]

/-- Two functions of one name, and data between them. -/
def functionTable : List ObjectSymbol :=
  [⟨1, some "_ZN3app4mainE", 64, true⟩, ⟨2, some "table", 96, false⟩,
    ⟨4, some "_ZN3app4mainE", 80, true⟩]

def imageOfTables (static dynamic : List ObjectSymbol) : Image :=
  ⟨"app", ⟨.little, [], fun _ => [], static, dynamic⟩, interleavedSections⟩

theorem fault_imageOfTables (static dynamic : List ObjectSymbol) :
    (interleavedBuild.collect (imageOfTables static dynamic).feed).2.fault = none :=
  fault_collect _ "app"
    (show interleavedImage.rows.fault = none by decide +kernel)

/-- Functions of the dynamic table are kept if no static entry has a name, and none of them if one
has, be it that of data. -/
theorem collect_listed_dynamic :
    (interleavedBuild.collect (imageOfTables namelessTable functionTable).feed).1.atlas.symbols.get?
        ⟨4⟩ = some ⟨⟨4⟩, "app::main", ⟨80⟩⟩ ∧
      (interleavedBuild.collect
        (imageOfTables namelessTable functionTable).feed).1.atlas.symbols.size = 2 ∧
      (interleavedBuild.collect
        (imageOfTables dataTable functionTable).feed).1.atlas.symbols.size = 0 := by
  have hnumbered : Numbered namelessTable ∧ Numbered dataTable ∧ Numbered functionTable :=
    ⟨⟨by decide, by decide⟩, ⟨by decide, by decide⟩, ⟨by decide, by decide⟩⟩
  obtain ⟨hnameless, hdata, hfunctions⟩ := hnumbered
  obtain ⟨-, -, -, -, hdynamic⟩ := (collect_listed (imageOfTables namelessTable functionTable)
    interleavedBuild).2 ⟨hnameless, hfunctions⟩
  obtain ⟨-, -, -, -, hstatic⟩ := (collect_listed (imageOfTables dataTable functionTable)
    interleavedBuild).2 ⟨hdata, hfunctions⟩
  obtain ⟨hdynamicPerm, hget⟩ := hdynamic (fault_imageOfTables _ _)
  obtain ⟨hstaticPerm, -⟩ := hstatic (fault_imageOfTables _ _)
  have hname : Demangle.demangle "_ZN3app4mainE" = "app::main" := by decide +kernel
  refine ⟨?_, hdynamicPerm.length_eq.trans (by decide +kernel),
    hstaticPerm.length_eq.trans (by decide +kernel)⟩
  rw [← hname]
  exact hget ⟨4, some "_ZN3app4mainE", 80, true⟩ (by decide) rfl _ rfl (by decide) ⟨4⟩ rfl

end Image

end CallSite
