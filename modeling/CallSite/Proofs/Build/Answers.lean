import CallSite.Proofs.Atlas.Register
import CallSite.Proofs.Blob.Size
import CallSite.Proofs.Build.Collection
import CallSite.Proofs.Build.Running
import CallSite.Proofs.Store.Loading

/-!
# From a feed to an answer

What a feed says of a call site can be read off its two lists. A resolver that looks at the image
into which the atlas of the feed was stored answers just that.
-/

namespace CallSite

/--
The position of a call site by the lists of a feed alone: the last function symbol with the
identifier, and the last usable row that does not lie above the exact sum of its address and the
offset.
-/
def Feed.position (feed : Feed) (id : SymbolId) (offset : Int64) : Option Position :=
  match (feed.symbols.items.filter fun s => s.isFunction ∧ s.id = id).getLast? with
  | none => none
  | some s =>
      let target : Int := s.address.value.toNat + offset.toInt
      if offset = -1 ∨ target < 0 ∨ 2 ^ 64 ≤ target then none
      else
        ((feed.rows.items.filter fun row =>
            row.Usable ∧ (row.address.value.toNat : Int) ≤ target).getLast?).map fun row =>
          ⟨row.line.toUInt32, SourcePath.shorten row.file⟩

/-! ### From a feed to an atlas -/

theorem collect_get?_eq {before : Atlas} {path : String} {feed : Feed}
    (h : (collect before path feed).fault = none)
    (id : SymbolId) :
    (collect before path feed).atlas.symbols.get? id =
      ((feed.symbols.items.filter fun s => s.isFunction ∧ s.id = id).getLast?).map
        FeedSymbol.symbol := by
  rw [collect_get? h, Feed.functions, List.filter_map, List.getLast?_map, List.filter_filter]
  have hfilter : (feed.symbols.items.filter fun s =>
      ((fun x : Symbol => decide (x.id = id)) ∘ FeedSymbol.symbol) s && s.isFunction) =
      feed.symbols.items.filter fun s => s.isFunction ∧ s.id = id := by
    apply List.filter_congr
    intro s _
    rw [Bool.decide_and, Bool.and_comm, Bool.decide_eq_true]
    rfl
  rw [hfilter]

/-- The atlas of a feed locates a call site where the feed says. -/
theorem locate_collect {before : Atlas} {path : String} {feed : Feed}
    (h : (collect before path feed).fault = none)
    (hnames : feed.names.dedup.length ≤ NamePool.capacity) (id : SymbolId) (offset : Int64) :
    (collect before path feed).atlas.locate id offset = feed.position id offset := by
  have hsymbol := collect_get?_eq h id
  have hreadings := collect_readings h hnames
  rw [Atlas.locate_eq, Register.locate, Feed.position, Atlas.register]
  simp only [hsymbol, hreadings]
  cases (feed.symbols.items.filter fun s => s.isFunction ∧ s.id = id).getLast? with
  | none => rfl
  | some s =>
      simp only [Option.map_some, FeedSymbol.symbol]
      split
      · rfl
      · rw [List.filter_map, List.getLast?_map, Option.map_map, Feed.usableRows,
          List.filter_filter]
        congr 2
        apply List.filter_congr
        intro row _
        rw [Bool.decide_and, Bool.and_comm]
        rfl

/-! ### From a run to a resolver -/

namespace Build

theorem new_eq_ok {files : FileStore} {path : String} {plan : Plan} {b : Build}
    (h : new files path plan = .ok b) :
    b = ⟨⟨path⟩, plan, .empty⟩ ∧ files.isFile path = true := by
  rw [new] at h
  split at h
  · cases h
  split at h
  · cases h
  split at h
  · rename_i hfile
    cases h
    exact ⟨rfl, hfile⟩
  · cases h

end Build

/--
Whatever a feed delivers, a new resolver answers every call site of an image just as the feed says,
once a run has stored the atlas of the feed in that image.
-/
theorem resolve_of_run {path : String} {plan : Plan} {b : Build} {feed : Feed} {s s' : Surroundings}
    {written : ModulePath} (hnew : Build.new s.files path plan = .ok b)
    (hplacement : plan.placement = .image) (hreport : plan.report = false)
    (hrun : (b.run feed).2.outcome s = (.ok written, s'))
    (hnames : feed.names.dedup.length ≤ NamePool.capacity)
    (hsize : (b.collect feed).1.atlas.Storable) (told : List Event) (id : SymbolId)
    (offset : Int64) :
    ((Store.resolve ⟨plan.output.getD path⟩ id offset .empty).run ⟨s'.files, told⟩).1.1 =
      feed.position id offset := by
  obtain ⟨rfl, -⟩ := Build.new_eq_ok hnew
  obtain ⟨hfault, files, hstored, hreported, -⟩ := Build.run_eq_ok hrun
  rw [Build.reported_of_off hreport] at hreported
  cases hreported
  obtain ⟨image, -, hread⟩ := Build.read_of_stored hplacement hstored
  have houtput : Build.output ⟨⟨path⟩, plan, .empty⟩ = ⟨plan.output.getD path⟩ := by
    rw [Build.output]
    cases plan.output <;> rfl
  rw [houtput] at hread
  have hdecode := Store.decoded_encode (Blob.decode_encode_version hsize.addressable 1)
  have hblob := Store.imageBlob_append image (Blob.length_encode_le hsize)
  have hload := Store.load_of_imageBlob (s := ⟨s'.files, told⟩) hread (by rw [hblob])
  rw [hdecode] at hload
  rw [Store.resolve_empty id offset hload]
  exact locate_collect hfault hnames id offset

/-! ### A sample run -/

/-- An identifier that is used twice, rows out of order, and a hidden one among them. -/
def sampleFeed : Feed where
  symbols := .ofItems [⟨⟨7⟩, "old", ⟨16⟩, true⟩, ⟨⟨7⟩, "main", ⟨32⟩, true⟩,
    ⟨⟨7⟩, "data", ⟨64⟩, false⟩]
  rows := .ofItems [⟨⟨36⟩, 9, "near.c", ""⟩, ⟨⟨32⟩, 3, "/src/a/b/main.c", "unit"⟩,
    ⟨⟨33⟩, hiddenLine, "main.c", "unit"⟩, ⟨⟨40⟩, 4, "main.c", "unit"⟩]

def sampleBuild : Build :=
  ⟨⟨"app"⟩, ⟨.image, false, some "out"⟩, .empty⟩

theorem resolve_of_run_sample :
    ∃ written s', Build.new Build.sampleFiles "app" sampleBuild.plan = .ok sampleBuild ∧
      (sampleBuild.run sampleFeed).2.outcome ⟨Build.sampleFiles, []⟩ = (.ok written, s') ∧
      sampleFeed.names.dedup.length ≤ NamePool.capacity ∧
      (sampleBuild.collect sampleFeed).1.atlas.Storable ∧
      ((Store.resolve ⟨"out"⟩ ⟨7⟩ 4 .empty).run ⟨s'.files, []⟩).1.1 =
        some ⟨3, ".../a/b/main.c"⟩ := by
  have hnew : Build.new Build.sampleFiles "app" sampleBuild.plan = .ok sampleBuild := by rfl
  have hok : ((sampleBuild.run sampleFeed).2.outcome ⟨Build.sampleFiles, []⟩).1.isOk = true := by
    decide +kernel
  have hnames : sampleFeed.names.dedup.length ≤ NamePool.capacity := by decide
  have hsize : (sampleBuild.collect sampleFeed).1.atlas.Storable := by
    unfold Atlas.Storable
    decide +kernel
  have hposition : sampleFeed.position ⟨7⟩ 4 = some ⟨3, ".../a/b/main.c"⟩ := by rfl
  obtain ⟨written, s', hrun⟩ := Session.exists_of_isOk hok
  have hanswer := resolve_of_run hnew rfl rfl hrun hnames hsize [] ⟨7⟩ 4
  exact ⟨written, s', hnew, hrun, hnames, hsize, hanswer.trans hposition⟩

end CallSite
