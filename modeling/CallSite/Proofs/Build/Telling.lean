import CallSite.Proofs.Build.Extraction

/-!
# What a collection tells

Nothing that a feed delivers disappears silently. What is told of a symbol or a row depends on what
was delivered before it, and each item that is not kept is told of once; the tables hold the others.
-/

namespace CallSite

/-! ### What an enumeration calls for -/

/-- What is told of deliveries: a note as it is, and of an item what it calls for after the items
that came earlier. -/
def toldAfter {α : Type} (tell : List α → α → List Event) (earlier : List α) :
    List (Delivery α) → List Event
  | [] => []
  | .note event :: rest => event :: toldAfter tell earlier rest
  | .item a :: rest => tell earlier a ++ toldAfter tell (earlier ++ [a]) rest

namespace Enumeration

variable {α : Type}

def told (e : Enumeration α) (tell : List α → α → List Event) : List Event :=
  toldAfter tell [] e.deliveries

/-- The same items and the same fault, without a note. -/
def quiet (e : Enumeration α) : Enumeration α :=
  ⟨e.items.map .item, e.fault⟩

end Enumeration

/-- The last function symbol among those with an identifier. -/
def lastFunction? (symbols : List FeedSymbol) (id : SymbolId) : Option Symbol :=
  ((symbols.filter fun s => s.isFunction ∧ s.id = id).getLast?).map FeedSymbol.symbol

/-- A function symbol replaces the last one before it with its identifier, which is told of. -/
def FeedSymbol.warnings (earlier : List FeedSymbol) (s : FeedSymbol) : List Event :=
  if s.isFunction then ((lastFunction? earlier s.id).map .duplicateSymbol).toList else []

/-- A row that is neither hidden nor of use is told of; if it has no file, that is the reason, however
large its line. -/
def FeedRow.warnings (_ : List FeedRow) (row : FeedRow) : List Event :=
  if row.line = hiddenLine ∨ row.Usable then []
  else if row.file = "" then [.rowRejected (.noSourceFile row.line row.address)]
  else [.rowRejected (.lineTooLarge row.line row.address)]

namespace Feed

/-- The rows that are asked for, none after a fault of the symbols. -/
def askedRows (feed : Feed) : Enumeration FeedRow :=
  match feed.symbols.fault with
  | some _ => .ofItems []
  | none => feed.rows

def told (feed : Feed) : List Event :=
  feed.symbols.told FeedSymbol.warnings ++ feed.askedRows.told FeedRow.warnings

def quiet (feed : Feed) : Feed :=
  ⟨feed.symbols.quiet, feed.rows.quiet⟩

/-- No note of the feed is of a level. -/
def SilentAt (feed : Feed) (level : Level) : Prop :=
  ∀ event, .note event ∈ feed.symbols.deliveries ∨ .note event ∈ feed.askedRows.deliveries →
    event.level ≠ level

end Feed

/-- A build that collects a feed keeps or tells of everything that the feed delivers, with the later
build as its result. -/
structure Build.Accounted (b : Build) (feed : Feed) (later : Build) (collected : Collected) :
    Prop where
  fault : collected.fault =
    match feed.symbols.fault with
    | some fault => some (.symbols fault.message)
    | none => feed.rows.fault.map fun fault => .rows fault.message
  /-- After a fault of the symbols it is all the same what the rows are. -/
  rows_unasked : feed.symbols.fault ≠ none →
    ∀ rows, b.collect ⟨feed.symbols, rows⟩ = (later, collected)
  /-- A fault is told after all that was delivered, and the sizes come last. -/
  events : collected.events = feed.told ++
    (collected.fault.map (Event.collectionFailed b.path.text)).toList ++
    [.symbolsKept later.atlas.symbols.size, .linesKept later.atlas.track.size,
      .namesKept later.atlas.pool.size]
  /-- What is told at a level at which the feed itself is silent. -/
  events_at : ∀ level, feed.SilentAt level →
    collected.events.filter (·.level = level) =
      match level with
      | .error => (collected.fault.map (Event.collectionFailed b.path.text)).toList
      | .warn => feed.quiet.told
      | .info => [.symbolsKept later.atlas.symbols.size, .linesKept later.atlas.track.size,
          .namesKept later.atlas.pool.size]
      | .debug | .trace => []
  cleared : collected.fault ≠ none →
    later.atlas.symbols.size = 0 ∧ later.atlas.track.size = 0 ∧ later.atlas.pool.size = 0
  symbols_kept : collected.fault = none →
    feed.symbols.items.countP (·.isFunction) =
      later.atlas.symbols.size + (feed.symbols.quiet.told FeedSymbol.warnings).length
  rows_kept : collected.fault = none →
    feed.rows.items.length = feed.rows.items.countP (·.line = hiddenLine) +
      later.atlas.track.size + (feed.rows.quiet.told FeedRow.warnings).length

/-! ### One delivery -/

/-- The index finds for each identifier the last function symbol with it. -/
def Indexed (symbols : List FeedSymbol) (atlas : Atlas) : Prop :=
  ∀ id, atlas.symbols.get? id = lastFunction? symbols id

theorem indexed_empty : Indexed [] .empty :=
  fun _ => rfl

theorem lastFunction?_append (symbols : List FeedSymbol) (s : FeedSymbol) (id : SymbolId) :
    lastFunction? (symbols ++ [s]) id =
      if s.isFunction ∧ s.id = id then some s.symbol else lastFunction? symbols id := by
  rw [lastFunction?, List.filter_append]
  by_cases h : s.isFunction ∧ s.id = id
  · simp [h]
  · simp [h, lastFunction?]

section Symbol

variable {earlier : List FeedSymbol} (s : FeedSymbol)

theorem Indexed.keepSymbol {atlas : Atlas} (h : Indexed earlier atlas) :
    Indexed (earlier ++ [s]) (atlas.keepSymbol s) := by
  intro id
  rw [lastFunction?_append, Atlas.keepSymbol]
  by_cases hfunction : s.isFunction = true
  · have hget : (atlas.addSymbol s.symbol).1.symbols.get? id =
        if s.symbol.id = id then some s.symbol else atlas.symbols.get? id :=
      SymbolIndex.get?_insert atlas.symbols s.symbol id
    rw [if_pos hfunction, hget, h id]
    simp only [hfunction, true_and]
    rfl
  · rw [if_neg hfunction, if_neg fun hs => hfunction hs.1, h id]

theorem Indexed.snd_addSymbol {atlas : Atlas} (h : Indexed earlier atlas) :
    (atlas.addSymbol s.symbol).2 = lastFunction? earlier s.id :=
  (SymbolIndex.snd_insert atlas.symbols s.symbol).trans (h s.id)

/-- A function symbol is one more in the index, or it is told of. -/
theorem Indexed.size_keepSymbol {atlas : Atlas} (h : Indexed earlier atlas) :
    (atlas.keepSymbol s).symbols.size + (s.warnings earlier).length =
      atlas.symbols.size + if s.isFunction then 1 else 0 := by
  rw [Atlas.keepSymbol, FeedSymbol.warnings, ← h.snd_addSymbol s]
  split
  · rw [← SymbolIndex.size_insert atlas.symbols s.symbol, Atlas.addSymbol]
    cases (atlas.symbols.insert s.symbol).2 <;> rfl
  · rfl

theorem Indexed.told_addSymbol {c : Collection} (h : Indexed earlier c.atlas) :
    (c.addSymbol s).told.reverse = c.told.reverse ++ s.warnings earlier := by
  rw [Collection.addSymbol, FeedSymbol.warnings, ← h.snd_addSymbol s]
  split
  · simp only [FeedSymbol.symbol]
    cases (c.atlas.addSymbol ⟨s.id, s.name, s.address⟩).2 <;> simp [Collection.tell]
  · simp

end Symbol

theorem Collection.told_addRow (c : Collection) (earlier : List FeedRow) (row : FeedRow) :
    (c.addRow row).told.reverse = c.told.reverse ++ row.warnings earlier := by
  rw [Collection.addRow, FeedRow.warnings, Atlas.addRow, FeedRow.rejection?]
  by_cases hline : row.line = hiddenLine
  · simp [hline]
  · by_cases hfile : row.file = ""
    · simp [FeedRow.Usable, hline, hfile, Collection.tell]
    · by_cases hsmall : row.line.toNat < UInt32.size <;>
        simp [FeedRow.Usable, hline, hfile, hsmall, Collection.tell]

/-- A row is hidden, of use or told of, and only one of these. -/
theorem FeedRow.one_of_warnings (earlier : List FeedRow) (row : FeedRow) :
    (if row.line = hiddenLine then 1 else 0) + (if row.Usable then 1 else 0) +
      (row.warnings earlier).length = 1 := by
  rw [warnings]
  by_cases hline : row.line = hiddenLine
  · have hnot : ¬ row.Usable := fun h => h.1 hline
    simp [hline, hnot]
  · by_cases husable : row.Usable
    · simp [hline, husable]
    · by_cases hfile : row.file = "" <;> simp [hline, husable, hfile]

/-! ### All deliveries -/

/-- If an item adds what it calls for to what was told, so do deliveries in turn; what the items
before it left in the atlas is carried along. -/
theorem Collection.told_foldl_deliver {α : Type} {add : Collection → α → Collection}
    {tell : List α → α → List Event} (Left : List α → Atlas → Prop)
    (hleft : ∀ {earlier c} a, Left earlier c.atlas → Left (earlier ++ [a]) (add c a).atlas)
    (htold : ∀ {earlier c} a, Left earlier c.atlas →
      (add c a).told.reverse = c.told.reverse ++ tell earlier a)
    {earlier : List α} {c : Collection} (h : Left earlier c.atlas)
    (deliveries : List (Delivery α)) :
    (deliveries.foldl (deliver add) c).told.reverse =
      c.told.reverse ++ toldAfter tell earlier deliveries := by
  induction deliveries generalizing earlier c with
  | nil => simp [toldAfter]
  | cons delivery rest ih =>
      cases delivery with
      | item a =>
          rw [List.foldl_cons, deliver, ih (hleft a h), htold a h, toldAfter, List.append_assoc]
      | note event =>
          have hrest := ih (c := c.tell event) h
          rw [List.foldl_cons, deliver, hrest, toldAfter]
          simp [Collection.tell]

/-- What is told of a feed that is collected. -/
theorem Collection.told_ofFeed (feed : Feed) :
    (ofFeed .empty feed).1.told.reverse = feed.told := by
  have hsymbols : (feed.symbols.deliveries.foldl (deliver addSymbol) ⟨.empty, []⟩).told.reverse =
      feed.symbols.told FeedSymbol.warnings := by
    refine told_foldl_deliver Indexed (fun {earlier c} s h => ?_)
      (fun s h => h.told_addSymbol s) indexed_empty feed.symbols.deliveries
    rw [atlas_addSymbol]
    exact h.keepSymbol s
  have hrows : ∀ c : Collection, (feed.rows.deliveries.foldl (deliver addRow) c).told.reverse =
      c.told.reverse ++ feed.rows.told FeedRow.warnings := fun c =>
    told_foldl_deliver (fun _ _ => True) (fun _ _ => trivial)
      (fun {earlier c} row _ => c.told_addRow earlier row) trivial feed.rows.deliveries
  rw [ofFeed, Feed.told, Feed.askedRows]
  cases feed.symbols.fault with
  | some fault => simp [hsymbols, Enumeration.told, Enumeration.ofItems, toldAfter]
  | none => simp [hrows, hsymbols]

/-- What is told of deliveries is a note among them, or called for by an item after those before. -/
theorem mem_toldAfter {α : Type} {tell : List α → α → List Event} {earlier : List α}
    {deliveries : List (Delivery α)} {event : Event} (h : event ∈ toldAfter tell earlier deliveries)
    (fault : Option FeedFault) :
    .note event ∈ deliveries ∨
      ∃ front a, front ++ [a] <+: (⟨deliveries, fault⟩ : Enumeration α).items ∧
        event ∈ tell (earlier ++ front) a := by
  induction deliveries generalizing earlier with
  | nil => cases h
  | cons delivery rest ih =>
      cases delivery with
      | item a =>
          rcases List.mem_append.mp h with hevent | hrest
          · exact .inr ⟨[], a, List.prefix_append [a] _, by simpa using hevent⟩
          · rcases ih hrest with hnote | ⟨front, b, hprefix, hevent⟩
            · exact .inl (List.mem_cons_of_mem _ hnote)
            · refine .inr ⟨a :: front, b, (List.prefix_cons_inj a).mpr hprefix, ?_⟩
              rwa [List.append_cons]
      | note told =>
          rcases List.mem_cons.mp h with rfl | hrest
          · exact .inl List.mem_cons_self
          · rcases ih hrest with hnote | hitem
            · exact .inl (List.mem_cons_of_mem _ hnote)
            · exact .inr hitem

/-! ### Notes aside -/

/-- What is left of what was told when the notes are left out. -/
theorem filter_toldAfter {α : Type} {p : Event → Bool} (tell : List α → α → List Event)
    (e : Enumeration α) (h : ∀ event, .note event ∈ e.deliveries → p event = false)
    (earlier : List α) :
    (toldAfter tell earlier e.deliveries).filter p =
      toldAfter (fun earlier a => (tell earlier a).filter p) earlier e.quiet.deliveries := by
  obtain ⟨deliveries, fault⟩ := e
  simp only [Enumeration.quiet, Enumeration.items]
  induction deliveries generalizing earlier with
  | nil => rfl
  | cons delivery rest ih =>
      have hrest := fun earlier =>
        ih earlier fun event hevent => h event (List.mem_cons_of_mem _ hevent)
      cases delivery with
      | item a =>
          rw [toldAfter, List.filter_append, hrest]
          rfl
      | note event =>
          have hevent : p event = false := h event List.mem_cons_self
          rw [toldAfter, List.filter_cons, hevent]
          exact hrest earlier

theorem toldAfter_nothing {α : Type} (earlier items : List α) :
    toldAfter (fun _ _ => []) earlier (items.map .item) = [] := by
  induction items generalizing earlier with
  | nil => rfl
  | cons a rest ih => exact ih (earlier ++ [a])

theorem FeedSymbol.level_of_mem_warnings {earlier : List FeedSymbol} {s : FeedSymbol} {event : Event}
    (h : event ∈ s.warnings earlier) : event.level = .warn := by
  rw [warnings] at h
  split at h
  · obtain ⟨previous, -, rfl⟩ := Option.map_eq_some_iff.mp (Option.mem_toList.mp h)
    rfl
  · cases h

theorem FeedRow.level_of_mem_warnings {earlier : List FeedRow} {row : FeedRow} {event : Event}
    (h : event ∈ row.warnings earlier) : event.level = .warn := by
  rw [warnings] at h
  split at h
  · cases h
  · split at h <;> obtain rfl := List.mem_singleton.mp h <;> rfl

/-- At a level at which the enumeration is silent, all that is told are warnings. -/
theorem Enumeration.filter_told {α : Type} (tell : List α → α → List Event)
    (hwarn : ∀ {earlier a event}, event ∈ tell earlier a → event.level = .warn)
    {e : Enumeration α} {level : Level}
    (h : ∀ event, .note event ∈ e.deliveries → event.level ≠ level) :
    (e.told tell).filter (·.level = level) = if level = .warn then e.quiet.told tell else [] := by
  rw [told, filter_toldAfter tell e fun event hevent => decide_eq_false (h event hevent)]
  by_cases hlevel : level = .warn
  · have hall : (fun earlier a => (tell earlier a).filter (·.level = level)) = tell := by
      funext earlier a
      exact List.filter_eq_self.mpr fun event hevent =>
        decide_eq_true ((hwarn hevent).trans hlevel.symm)
    rw [if_pos hlevel, hall, told]
  · have hnone : (fun earlier a => (tell earlier a).filter (·.level = level)) = fun _ _ => [] := by
      funext earlier a
      refine List.filter_eq_nil_iff.mpr fun event hevent hsame => hlevel ?_
      exact (of_decide_eq_true hsame).symm.trans (hwarn hevent)
    rw [if_neg hlevel, hnone]
    exact toldAfter_nothing [] e.items

theorem Feed.quiet_askedRows (feed : Feed) : feed.quiet.askedRows = feed.askedRows.quiet := by
  rw [askedRows, askedRows]
  have hfault : feed.quiet.symbols.fault = feed.symbols.fault := rfl
  rw [hfault]
  cases feed.symbols.fault <;> rfl

theorem Feed.filter_told {feed : Feed} {level : Level} (h : feed.SilentAt level) :
    feed.told.filter (·.level = level) = if level = .warn then feed.quiet.told else [] := by
  have hsymbols := Enumeration.filter_told FeedSymbol.warnings FeedSymbol.level_of_mem_warnings
    fun event hevent => h event (.inl hevent)
  have hrows := Enumeration.filter_told FeedRow.warnings FeedRow.level_of_mem_warnings
    fun event hevent => h event (.inr hevent)
  rw [told, List.filter_append, hsymbols, hrows]
  split
  · rw [told, quiet_askedRows]
    rfl
  · rfl

/-! ### What is kept -/

/-- Function symbols that come in turn are in the index or told of. -/
theorem Indexed.size_foldl_keepSymbol {earlier : List FeedSymbol} {atlas : Atlas}
    (h : Indexed earlier atlas) (symbols : List FeedSymbol) :
    (symbols.foldl Atlas.keepSymbol atlas).symbols.size +
        (toldAfter FeedSymbol.warnings earlier (symbols.map .item)).length =
      atlas.symbols.size + symbols.countP (·.isFunction) := by
  induction symbols generalizing earlier atlas with
  | nil => rfl
  | cons s rest ih =>
      have hstep := h.size_keepSymbol s
      have hrest := ih (h.keepSymbol s)
      rw [List.foldl_cons, List.map_cons, toldAfter, List.length_append, List.countP_cons]
      omega

/-- Rows that come in turn are hidden, of use, or told of. -/
theorem FeedRow.countP_add_length_told (earlier rows : List FeedRow) :
    rows.countP (·.line = hiddenLine) + rows.countP (fun row => row.Usable) +
      (toldAfter warnings earlier (rows.map .item)).length = rows.length := by
  induction rows generalizing earlier with
  | nil => rfl
  | cons row rest ih =>
      have hrow := row.one_of_warnings earlier
      have hrest := ih (earlier ++ [row])
      rw [List.map_cons, toldAfter, List.length_append, List.countP_cons, List.countP_cons,
        List.length_cons]
      simp only [decide_eq_true_eq]
      omega

section Collect

variable {before : Atlas} {path : String} {feed : Feed}
    (h : (collect before path feed).fault = none)
include h

theorem collect_symbols :
    (collect before path feed).atlas.symbols =
      (feed.symbols.items.foldl Atlas.keepSymbol .empty).symbols := by
  rw [collect_atlas h, Atlas.symbols_foldl_markRow, Feed.foldl_functions]

theorem collect_track_size : (collect before path feed).atlas.track.size = feed.usableRows.length := by
  have hlength := congrArg List.length (collect_records h).marks
  rwa [List.length_map, List.length_map, Array.length_toList] at hlength

end Collect

/-- However a feed breaks off or repeats itself, a build that collects it keeps or tells of all that
it delivers. -/
theorem Build.accounted_collect (b : Build) (feed : Feed) :
    b.Accounted feed (b.collect feed).1 (b.collect feed).2 := by
  have hevents : (b.collect feed).2.events = feed.told ++
      ((b.collect feed).2.fault.map (Event.collectionFailed b.path.text)).toList ++
      [.symbolsKept (b.collect feed).1.atlas.symbols.size,
        .linesKept (b.collect feed).1.atlas.track.size,
        .namesKept (b.collect feed).1.atlas.pool.size] := by
    rw [← Collection.told_ofFeed]
    rfl
  refine ⟨collect_fault b.atlas b.path.text feed, fun hfault rows => ?_, hevents, fun level hsilent => ?_,
    fun hfault => ?_, fun hfault => ?_, fun hfault => ?_⟩
  · obtain ⟨fault, hfault⟩ := Option.ne_none_iff_exists'.mp hfault
    simp [Build.collect, CallSite.collect, Collection.ofFeed, hfault]
  · rw [hevents, List.filter_append, List.filter_append, Feed.filter_told hsilent]
    cases (b.collect feed).2.fault <;> cases level <;> simp [Event.level]
  · obtain ⟨fault, hfault⟩ := Option.ne_none_iff_exists'.mp hfault
    have hatlas : (b.collect feed).1.atlas = .empty := collect_atlas_of_fault hfault
    rw [hatlas]
    exact ⟨rfl, rfl, rfl⟩
  · have hsize := indexed_empty.size_foldl_keepSymbol feed.symbols.items
    rw [← collect_symbols hfault] at hsize
    exact (hsize.trans (Nat.zero_add _)).symm
  · have hsize : (b.collect feed).1.atlas.track.size = feed.usableRows.length :=
      collect_track_size hfault
    rw [hsize, Feed.usableRows, ← List.countP_eq_length_filter]
    exact (FeedRow.countP_add_length_told [] feed.rows.items).symm

/-! ### A feed with something to tell of -/

/-- An identifier that is used three times, and rows that are bad in one way and in two. -/
def tellingFeed (fault : Option FeedFault) : Feed where
  symbols := ⟨[.item ⟨⟨7⟩, "first", ⟨16⟩, true⟩, .note (.symbolsListed 4),
    .item ⟨⟨7⟩, "second", ⟨32⟩, true⟩, .item ⟨⟨7⟩, "data", ⟨64⟩, false⟩,
    .item ⟨⟨7⟩, "third", ⟨48⟩, true⟩], none⟩
  rows := ⟨[.item ⟨⟨16⟩, hiddenLine, "", "unit"⟩, .item ⟨⟨20⟩, 0x100000000, "", "unit"⟩,
    .item ⟨⟨24⟩, 0x100000000, "main.c", "unit"⟩, .item ⟨⟨28⟩, 3, "main.c", "unit"⟩], fault⟩

theorem tellingFeed_silentAt (fault : Option FeedFault) {level : Level} (h : level ≠ .debug) :
    (tellingFeed fault).SilentAt level := by
  rintro event (hevent | hevent) <;> simp [tellingFeed, Feed.askedRows] at hevent
  rw [hevent]
  exact h.symm

/-- Two symbols and two rows are told of, whether the rows break off in the end or not. -/
theorem Build.accounted_collect_telling :
    (∀ fault, (usedBuild.collect (tellingFeed fault)).2.events.filter (·.level = .warn) =
        [.duplicateSymbol ⟨⟨7⟩, "first", ⟨16⟩⟩, .duplicateSymbol ⟨⟨7⟩, "second", ⟨32⟩⟩,
          .rowRejected (.noSourceFile 0x100000000 ⟨20⟩),
          .rowRejected (.lineTooLarge 0x100000000 ⟨24⟩)]) ∧
      (usedBuild.collect (tellingFeed (some (.debugInfo "cut")))).2.events.filter
        (·.level = .error) = [.collectionFailed "app" (.rows "DWARF error: cut")] ∧
      (usedBuild.collect (tellingFeed none)).1.atlas.symbols.size = 1 ∧
      (usedBuild.collect (tellingFeed none)).1.atlas.track.size = 1 := by
  have haccounted := fun fault => usedBuild.accounted_collect (tellingFeed fault)
  refine ⟨fun fault => ?_, ?_, ?_, ?_⟩
  · rw [(haccounted fault).events_at .warn (tellingFeed_silentAt fault (by decide))]
    rfl
  · rw [(haccounted _).events_at .error (tellingFeed_silentAt _ (by decide))]
    rfl
  · have hsymbols : 3 = _ + 2 := (haccounted none).symbols_kept rfl
    omega
  · have hrows : 4 = 1 + _ + 2 := (haccounted none).rows_kept rfl
    omega

end CallSite
