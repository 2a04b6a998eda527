import CallSite.Build.Collection
import CallSite.Proofs.Atlas.Readings
import CallSite.Proofs.Atlas.Symbols

/-!
# What a collection keeps

Without a fault, the atlas of a feed depends on its items alone: the function symbols go into the
index in their order, the usable rows onto the track, and nothing else leaves a trace. So a look-up
finds the last function symbol with its identifier, and the marks read as the usable rows.
-/

namespace CallSite

def FeedSymbol.symbol (s : FeedSymbol) : Symbol :=
  ⟨s.id, s.name, s.address⟩

namespace FeedRow

/-- Not hidden, from a named file, and of a line that fits into 32 bits. -/
def Usable (row : FeedRow) : Prop :=
  row.line ≠ hiddenLine ∧ row.file ≠ "" ∧ row.line.toNat < UInt32.size

instance (row : FeedRow) : Decidable row.Usable :=
  inferInstanceAs (Decidable (_ ∧ _ ∧ _))

/-- The names that marking a row puts into a pool, in their order. -/
def names (row : FeedRow) : List String :=
  [SourcePath.shorten row.file, row.container]

def reading (row : FeedRow) : Reading :=
  ⟨row.address, row.line.toUInt32, SourcePath.shorten row.file, row.container⟩

theorem rejection?_eq_none {row : FeedRow} :
    row.rejection? = none ↔ row.file ≠ "" ∧ row.line.toNat < UInt32.size := by
  rw [rejection?]
  by_cases hfile : row.file = ""
  · simp [hfile]
  · by_cases hline : row.line.toNat < UInt32.size <;> simp [hfile, hline]

end FeedRow

namespace Feed

def functions (feed : Feed) : List Symbol :=
  (feed.symbols.items.filter (·.isFunction)).map FeedSymbol.symbol

def usableRows (feed : Feed) : List FeedRow :=
  feed.rows.items.filter fun row => row.Usable

/-- The names that the usable rows bring, with repetitions. -/
def names (feed : Feed) : List String :=
  feed.usableRows.flatMap FeedRow.names

end Feed

namespace Atlas

/-- The atlas with a usable row marked. -/
def markRow (atlas : Atlas) (row : FeedRow) : Atlas :=
  (atlas.addMark row.line.toUInt32 row.address (SourcePath.shorten row.file) row.container).1

def keepSymbol (atlas : Atlas) (s : FeedSymbol) : Atlas :=
  if s.isFunction then (atlas.addSymbol s.symbol).1 else atlas

def keepRow (atlas : Atlas) (row : FeedRow) : Atlas :=
  if row.Usable then atlas.markRow row else atlas

end Atlas

namespace Feed

theorem foldl_functions (feed : Feed) (atlas : Atlas) :
    feed.functions.foldl (fun atlas s => (atlas.addSymbol s).1) atlas =
      feed.symbols.items.foldl Atlas.keepSymbol atlas := by
  rw [functions, List.foldl_map, List.foldl_filter]
  rfl

theorem foldl_usableRows (feed : Feed) (atlas : Atlas) :
    feed.usableRows.foldl Atlas.markRow atlas = feed.rows.items.foldl Atlas.keepRow atlas := by
  rw [usableRows, List.foldl_filter]
  simp only [decide_eq_true_eq]
  rfl

end Feed

namespace Collection

/-! ### One delivery -/

theorem atlas_addSymbol (c : Collection) (s : FeedSymbol) :
    (c.addSymbol s).atlas = c.atlas.keepSymbol s := by
  rw [addSymbol, Atlas.keepSymbol]
  split
  · simp only [FeedSymbol.symbol]
    cases (c.atlas.addSymbol ⟨s.id, s.name, s.address⟩).2 <;> rfl
  · rfl

theorem atlas_addRow (c : Collection) (row : FeedRow) :
    (c.addRow row).atlas = c.atlas.keepRow row := by
  rw [addRow, Atlas.keepRow]
  by_cases hline : row.line = hiddenLine
  · have hnot : ¬ row.Usable := fun h => h.1 hline
    rw [if_pos hline, if_neg hnot]
  · rw [if_neg hline, Atlas.addRow]
    cases hreason : row.rejection? with
    | none =>
        have husable : row.Usable := ⟨hline, FeedRow.rejection?_eq_none.mp hreason⟩
        simp only [husable, if_true]
        rfl
    | some reason =>
        have hnot : ¬ row.Usable := by
          intro h
          rw [FeedRow.rejection?_eq_none.mpr h.2] at hreason
          cases hreason
        simp only [hnot, if_false]
        rfl

/-! ### All deliveries -/

/-- Notes leave no trace in an atlas, and items only what each of them does. -/
theorem atlas_foldl_deliver {α : Type} {add : Collection → α → Collection}
    {step : Atlas → α → Atlas} (h : ∀ c a, (add c a).atlas = step c.atlas a) (c : Collection)
    (e : Enumeration α) :
    (e.deliveries.foldl (deliver add) c).atlas = e.items.foldl step c.atlas := by
  obtain ⟨deliveries, fault⟩ := e
  rw [Enumeration.items]
  induction deliveries generalizing c with
  | nil => rfl
  | cons delivery rest ih =>
      cases delivery with
      | item a =>
          have hrest := ih (add c a)
          rw [h] at hrest
          exact hrest
      | note event => exact ih (c.tell event)

end Collection

section Collect

variable {before : Atlas} {path : String} {feed : Feed}

theorem collect_fault_eq_none (h : (collect before path feed).fault = none) :
    feed.symbols.fault = none ∧ feed.rows.fault = none := by
  rw [collect, Collection.ofFeed] at h
  cases hsymbols : feed.symbols.fault with
  | none =>
      cases hrows : feed.rows.fault with
      | none => exact ⟨rfl, rfl⟩
      | some fault => simp [hsymbols, hrows] at h
  | some fault => simp [hsymbols] at h

/-- The atlas of a feed without a fault, from its function symbols and its usable rows. -/
theorem collect_atlas (h : (collect before path feed).fault = none) :
    (collect before path feed).atlas =
      feed.usableRows.foldl Atlas.markRow (feed.functions.foldl (fun atlas s => (atlas.addSymbol s).1) .empty) := by
  obtain ⟨hsymbols, hrows⟩ := collect_fault_eq_none h
  have hatlas : (collect before path feed).atlas =
      (feed.rows.deliveries.foldl (Collection.deliver Collection.addRow)
        (feed.symbols.deliveries.foldl (Collection.deliver Collection.addSymbol)
          ⟨.empty, []⟩)).atlas := by
    simp [collect, Collection.ofFeed, hsymbols, hrows]
  rw [hatlas, Collection.atlas_foldl_deliver Collection.atlas_addRow,
    Collection.atlas_foldl_deliver Collection.atlas_addSymbol, Feed.foldl_usableRows,
    Feed.foldl_functions]

end Collect

/-! ### What the atlas holds -/

namespace Atlas

theorem foldl_addSymbol (atlas : Atlas) (symbols : List Symbol) :
    symbols.foldl (fun atlas s => (atlas.addSymbol s).1) atlas =
      { atlas with
        symbols := symbols.foldl (fun index s => (index.insert s).1) atlas.symbols } := by
  induction symbols generalizing atlas with
  | nil => rfl
  | cons s rest ih =>
      rw [List.foldl_cons, ih]
      rfl

theorem records_foldl_addSymbol {atlas : Atlas} {rs : List Reading} (h : atlas.Records rs)
    (symbols : List Symbol) :
    (symbols.foldl (fun atlas s => (atlas.addSymbol s).1) atlas).Records rs := by
  rw [foldl_addSymbol]
  exact ⟨h.names, h.marks⟩

theorem symbols_foldl_markRow (atlas : Atlas) (rows : List FeedRow) :
    (rows.foldl markRow atlas).symbols = atlas.symbols := by
  induction rows generalizing atlas with
  | nil => rfl
  | cons row rest ih =>
      rw [List.foldl_cons, ih]
      rfl

/-- Rows that are marked in turn are recorded in turn, and nothing else is. -/
theorem records_foldl_markRow {atlas : Atlas} {rs : List Reading} (h : atlas.Records rs)
    (rows : List FeedRow) :
    (rows.foldl markRow atlas).Records (rs ++ rows.map FeedRow.reading) := by
  induction rows generalizing atlas rs with
  | nil => simpa using h
  | cons row rest ih =>
      have hrow : (atlas.markRow row).Records (rs ++ [row.reading]) := h.addMark _ _ _ _
      rw [List.foldl_cons, List.map_cons, List.append_cons]
      exact ih hrow

end Atlas

section Collect

variable {before : Atlas} {path : String} {feed : Feed}
    (h : (collect before path feed).fault = none)
include h

theorem collect_get? (id : SymbolId) :
    (collect before path feed).atlas.symbols.get? id =
      (feed.functions.filter (·.id = id)).getLast? := by
  rw [collect_atlas h, Atlas.symbols_foldl_markRow, Atlas.foldl_addSymbol,
    SymbolIndex.get?_foldl_insert]
  simp [Atlas.empty]

theorem collect_records :
    (collect before path feed).atlas.Records (feed.usableRows.map FeedRow.reading) := by
  rw [collect_atlas h]
  exact Atlas.records_foldl_markRow
    (Atlas.records_foldl_addSymbol Atlas.records_empty feed.functions) feed.usableRows

theorem collect_names : (collect before path feed).atlas.pool.names = feed.names.eraseDups := by
  rw [(collect_records h).names, List.flatMap_map]
  rfl

theorem collect_readings (hnames : feed.names.dedup.length ≤ NamePool.capacity) :
    (collect before path feed).atlas.readings = feed.usableRows.map FeedRow.reading := by
  have hsize : (collect before path feed).atlas.pool.size ≤ NamePool.capacity := by
    rwa [NamePool.size, collect_names h, ← foldl_appendNew_nil, length_foldl_appendNew]
  exact (collect_records h).readings_eq hsize

end Collect

end CallSite
