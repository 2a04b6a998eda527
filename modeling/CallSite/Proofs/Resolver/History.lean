import CallSite.Proofs.Resolver.Cache

/-!
# Resolvers and their history

What a resolver answers follows from the calls that were made so far: an atlas that was inserted
last, or else what the one load of the module came to. So every module is loaded at most once, and
not at all if an atlas was inserted before it was asked for.
-/

namespace CallSite.Resolver

/-- One call of a loader, and what it came to. -/
structure Load where
  path : ModulePath
  outcome : Except Fault (Option Atlas)

/-- What a loader says of a module, which may depend on all its calls so far. -/
abbrev Loader := List Load → ModulePath → Except Fault (Option Atlas)

inductive Call where
  | resolve (path : ModulePath) (id : SymbolId) (offset : Int64)
  | atlas (path : ModulePath)
  | insert (path : ModulePath) (atlas : Atlas)
  | size

inductive Reply where
  | position (found : Option Position)
  | atlas (found : Option Atlas)
  | done
  | size (count : Nat)
deriving DecidableEq

/-- A resolver at work, and the calls of its loader so far. -/
structure Process where
  resolver : Resolver
  loads : List Load

namespace Process

def start : Process := ⟨.empty, []⟩

/-- A loader with its calls written down. -/
def asked (loader : Loader) (path : ModulePath) :
    StateM (List Load) (Except Fault (Option Atlas)) := do
  let loads ← get
  set (loads ++ [⟨path, loader loads path⟩])
  return loader loads path

def silent (_ : Event) : StateM (List Load) Unit :=
  pure ()

def step (loader : Loader) (s : Process) : Call → Reply × Process
  | .resolve path id offset =>
      let ((found, resolver), loads) :=
        (s.resolver.resolve (asked loader) silent path id offset).run s.loads
      (.position found, ⟨resolver, loads⟩)
  | .atlas path =>
      let ((found, resolver), loads) := (s.resolver.atlas (asked loader) silent path).run s.loads
      (.atlas found, ⟨resolver, loads⟩)
  | .insert path atlas => (.done, ⟨s.resolver.insert path atlas, s.loads⟩)
  | .size => (.size s.resolver.size, s)

/-- Calls in turn, and their replies. -/
def run (loader : Loader) (s : Process) : List Call → List Reply × Process
  | [] => ([], s)
  | call :: rest =>
      let (reply, s) := s.step loader call
      let (replies, s) := run loader s rest
      (reply :: replies, s)

end Process

/-- Every load came to what the loader said of its module after the loads before it. -/
def Answered (loader : Loader) (loads : List Load) : Prop :=
  ∀ i load, loads[i]? = some load → load.outcome = loader (loads.take i) load.path

/-! ### What the history says -/

namespace Call

/-- The module that a call is about. -/
def path? : Call → Option ModulePath
  | .resolve path _ _ | .atlas path | .insert path _ => some path
  | .size => none

def isQuery : Call → Bool
  | .resolve _ _ _ | .atlas _ => true
  | _ => false

def about (path : ModulePath) (call : Call) : Bool :=
  call.path?.any fun other => decide (other.Same path)

/-- The atlas that a call inserts for a module. -/
def inserted? (path : ModulePath) : Call → Option Atlas
  | .insert other found => if other.Same path then some found else none
  | _ => none

end Call

/-- The modules that calls are about, with repetitions. -/
def mentioned (calls : List Call) : List (List PathComponent) :=
  calls.filterMap fun call => call.path?.map ModulePath.components

def latestInsert (calls : List Call) (path : ModulePath) : Option Atlas :=
  (calls.filterMap (Call.inserted? path)).getLast?

/-- Whether a module was asked for before anything was inserted for it. -/
def askedFirst (calls : List Call) (path : ModulePath) : Bool :=
  (calls.find? (Call.about path)).any Call.isQuery

/-- The atlas that a load came to; a fault counts as none. -/
def Load.found (load : Load) : Option Atlas :=
  match load.outcome with
  | .ok (some atlas) => some atlas
  | .ok none | .error _ => none

/-- What the first load of a module came to. -/
def loaded (loads : List Load) (path : ModulePath) : Option Atlas :=
  (loads.find? fun load => decide (load.path.Same path)).bind Load.found

def loadCount (loads : List Load) (path : ModulePath) : Nat :=
  loads.countP fun load => decide (load.path.Same path)

/-- The atlas of a module after some calls. -/
def held (calls : List Call) (loads : List Load) (path : ModulePath) : Option Atlas :=
  (latestInsert calls path).or (loaded loads path)

/-- The reply to a call after others. -/
def expected (calls : List Call) (loads : List Load) : Call → Reply
  | .resolve path id offset => .position ((held calls loads path).bind (·.locate id offset))
  | .atlas path => .atlas (held calls loads path)
  | .insert _ _ => .done
  | .size => .size (mentioned calls).dedup.length

/-! ### One query -/

theorem fst_ofLoad (path : ModulePath) (outcome : Except Fault (Option Atlas)) :
    (ofLoad path outcome).1 = Load.found ⟨path, outcome⟩ := by
  cases outcome with
  | error fault => rfl
  | ok found => cases found <;> rfl

theorem run_atlas (loader : Loader) (path : ModulePath) (r : Resolver) (loads : List Load) :
    (r.atlas (Process.asked loader) Process.silent path).run loads =
      match r.cached? path with
      | some answer => ((answer, r), loads)
      | none =>
          let load : Load := ⟨path, loader loads path⟩
          ((load.found, r.remember path load.found), loads ++ [load]) := by
  rw [atlas]
  cases r.cached? path with
  | some answer => rfl
  | none =>
      have hasked : (Process.asked loader path).run loads =
          (loader loads path, loads ++ [⟨path, loader loads path⟩]) :=
        rfl
      simp only [StateT.run_bind, hasked, ← fst_ofLoad]
      cases loader loads path with
      | error fault => rfl
      | ok found => cases found <;> rfl

theorem run_resolve (loader : Loader) (path : ModulePath) (id : SymbolId) (offset : Int64)
    (r : Resolver) (loads : List Load) :
    (r.resolve (Process.asked loader) Process.silent path id offset).run loads =
      let ((found, r), loads) := (r.atlas (Process.asked loader) Process.silent path).run loads
      ((found.bind (·.locate id offset), r), loads) := by
  cases hatlas : (r.atlas (Process.asked loader) Process.silent path).run loads with
  | mk first loads' =>
      obtain ⟨loads'', hrun, hloads⟩ := exists_run_resolve hatlas id offset
      have hsilent : loads'' = loads' := by
        rcases hloads with h | h
        · exact h
        · exact h
      rw [hrun, hsilent]

/-! ### One more call -/

section History

variable {calls : List Call} {call : Call} {path : ModulePath}

theorem about_iff : call.about path = true ↔ ∃ other, call.path? = some other ∧ other.Same path := by
  rw [Call.about]
  cases call.path? <;> simp

theorem about_eq (h : call.path? = some path) (other : ModulePath) :
    call.about other = decide (path.Same other) := by
  rw [Call.about, h]
  rfl

theorem mem_mentioned : path.components ∈ mentioned calls ↔ ∃ c ∈ calls, c.about path = true := by
  rw [mentioned, List.mem_filterMap]
  constructor
  · rintro ⟨c, hc, hpath⟩
    obtain ⟨other, hother, hsame⟩ := Option.map_eq_some_iff.mp hpath
    exact ⟨c, hc, about_iff.mpr ⟨other, hother, hsame⟩⟩
  · rintro ⟨c, hc, habout⟩
    obtain ⟨other, hother, hsame⟩ := about_iff.mp habout
    refine ⟨c, hc, ?_⟩
    rw [hother, Option.map_some, hsame]

theorem mentioned_append (calls : List Call) (call : Call) :
    mentioned (calls ++ [call]) =
      mentioned calls ++ (call.path?.map ModulePath.components).toList := by
  rw [mentioned, List.filterMap_append, mentioned]
  cases hpath : call.path? <;> simp [hpath]

theorem mem_mentioned_append {components : List PathComponent} :
    components ∈ mentioned (calls ++ [call]) ↔
      components ∈ mentioned calls ∨ call.path?.map ModulePath.components = some components := by
  rw [mentioned_append, List.mem_append, Option.mem_toList]

theorem latestInsert_append (calls : List Call) (call : Call) (path : ModulePath) :
    latestInsert (calls ++ [call]) path =
      (call.inserted? path).or (latestInsert calls path) := by
  rw [latestInsert, List.filterMap_append, latestInsert]
  cases hinserted : call.inserted? path <;> simp [hinserted]

theorem inserted?_of_isQuery (h : call.isQuery = true) : call.inserted? path = none := by
  cases call with
  | insert other found => cases h
  | resolve other id offset => rfl
  | atlas other => rfl
  | size => rfl

theorem about_of_inserted? {found : Atlas} (h : call.inserted? path = some found) :
    call.about path = true := by
  cases call with
  | insert other atlas =>
      rw [Call.inserted?] at h
      split at h
      · rename_i hsame
        exact about_iff.mpr ⟨other, rfl, hsame⟩
      · cases h
  | resolve other id offset => cases h
  | atlas other => cases h
  | size => cases h

theorem exists_inserted? (habout : call.about path = true) (hquery : call.isQuery = false) :
    ∃ found, call.inserted? path = some found := by
  obtain ⟨other, hother, hsame⟩ := about_iff.mp habout
  cases call with
  | insert other' found =>
      cases hother
      exact ⟨found, if_pos hsame⟩
  | resolve other' id offset => cases hquery
  | atlas other' => cases hquery
  | size => cases hother

theorem latestInsert_eq_none :
    latestInsert calls path = none ↔ ∀ c ∈ calls, c.inserted? path = none := by
  rw [latestInsert, List.getLast?_eq_none_iff, List.filterMap_eq_nil_iff]

theorem latestInsert_of_not_mem (h : path.components ∉ mentioned calls) :
    latestInsert calls path = none := by
  rw [latestInsert_eq_none]
  intro c hc
  cases hinserted : c.inserted? path with
  | none => rfl
  | some found => exact absurd (mem_mentioned.mpr ⟨c, hc, about_of_inserted? hinserted⟩) h

theorem find?_about_of_not_mem (h : path.components ∉ mentioned calls) :
    calls.find? (Call.about path) = none := by
  rw [List.find?_eq_none]
  intro c hc habout
  exact h (mem_mentioned.mpr ⟨c, hc, habout⟩)

theorem askedFirst_append_of_mem (h : path.components ∈ mentioned calls) :
    askedFirst (calls ++ [call]) path = askedFirst calls path := by
  obtain ⟨c, hc, habout⟩ := mem_mentioned.mp h
  have hfound : (calls.find? (Call.about path)).isSome :=
    List.find?_isSome.mpr ⟨c, hc, habout⟩
  rw [askedFirst, askedFirst, List.find?_append, Option.or_of_isSome hfound]

theorem askedFirst_append_of_not_mem (h : path.components ∉ mentioned calls) :
    askedFirst (calls ++ [call]) path = (call.about path && call.isQuery) := by
  rw [askedFirst, List.find?_append, find?_about_of_not_mem h, Option.none_or]
  cases habout : call.about path <;> simp [habout]

theorem askedFirst_of_not_mem (h : path.components ∉ mentioned calls) :
    askedFirst calls path = false := by
  rw [askedFirst, find?_about_of_not_mem h]
  rfl

/-- A module that is asked for without an earlier insertion was asked for first. -/
theorem askedFirst_of_latestInsert (hnone : latestInsert calls path = none)
    (habout : call.about path = true) (hquery : call.isQuery = true) :
    askedFirst (calls ++ [call]) path = true := by
  rw [askedFirst]
  cases hfound : (calls ++ [call]).find? (Call.about path) with
  | none => exact absurd habout (List.find?_eq_none.mp hfound call (by simp))
  | some c =>
      rw [Option.any_some]
      by_contra hnot
      obtain ⟨found, hinserted⟩ :=
        exists_inserted? (List.find?_some hfound) (Bool.eq_false_iff.mpr hnot)
      rcases List.mem_append.mp (List.mem_of_find?_eq_some hfound) with hc | hc
      · rw [latestInsert_eq_none.mp hnone c hc] at hinserted
        cases hinserted
      · rw [List.mem_singleton] at hc
        exact hnot (hc ▸ hquery)

end History

/-! ### One more load -/

section Loads

variable {loads : List Load} {load : Load} {path : ModulePath}

theorem loadCount_append (loads : List Load) (load : Load) (path : ModulePath) :
    loadCount (loads ++ [load]) path =
      loadCount loads path + if load.path.Same path then 1 else 0 := by
  rw [loadCount, List.countP_append, loadCount]
  by_cases h : load.path.Same path <;> simp [h]

theorem loaded_append_of_same (hcount : loadCount loads path = 0) (h : load.path.Same path) :
    loaded (loads ++ [load]) path = load.found := by
  have hnone : (loads.find? fun load => decide (load.path.Same path)) = none := by
    rw [List.find?_eq_none]
    exact List.countP_eq_zero.mp hcount
  rw [loaded, List.find?_append, hnone]
  simp [h]

theorem loaded_append_of_not_same (h : ¬ load.path.Same path) :
    loaded (loads ++ [load]) path = loaded loads path := by
  rw [loaded, List.find?_append, loaded]
  simp [h]

/-- What a module was loaded as stays what it was loaded as. -/
theorem loaded_of_isPrefix {later : List Load} (h : loads <+: later)
    (hcount : 0 < loadCount loads path) : loaded later path = loaded loads path := by
  obtain ⟨more, rfl⟩ := h
  have hfound : (loads.find? fun load => decide (load.path.Same path)).isSome := by
    rw [List.find?_isSome]
    exact List.countP_pos_iff.mp hcount
  rw [loaded, loaded, List.find?_append, Option.or_of_isSome hfound]

end Loads

/-! ### What a resolver recalls -/

/-- What is remembered and what was loaded after some calls. -/
structure Recalls (calls : List Call) (s : Process) : Prop where
  answer : ∀ path, path.components ∈ mentioned calls →
    s.resolver.cached? path = some (held calls s.loads path)
  nodup : s.resolver.modules.Nodup
  modules : ∀ components, components ∈ s.resolver.modules ↔ components ∈ mentioned calls
  loads : ∀ path, loadCount s.loads path = if askedFirst calls path then 1 else 0

theorem recalls_start : Recalls [] .start := by
  refine ⟨?_, List.nodup_nil, ?_, ?_⟩
  · intro path h
    cases h
  · intro components
    rfl
  · intro path
    rfl

section Recalls

variable {calls : List Call} {s : Process} {call : Call} {path : ModulePath}

theorem Recalls.size_eq (h : Recalls calls s) :
    s.resolver.size = (mentioned calls).dedup.length := by
  rw [Resolver.size_eq]
  exact length_eq_of_nodup h.nodup h.modules

theorem nodup_modules_remember {r : Resolver} (h : r.modules.Nodup) (path : ModulePath)
    (answer : Option Atlas) : (r.remember path answer).modules.Nodup := by
  rw [modules_remember]
  exact nodup_appendNew h path.components

theorem mem_modules_remember {r : Resolver} {path : ModulePath} {answer : Option Atlas}
    {components : List PathComponent} :
    components ∈ (r.remember path answer).modules ↔
      components ∈ r.modules ∨ components = path.components := by
  rw [modules_remember, mem_appendNew]

theorem held_append_of_none (loads : List Load) (h : call.inserted? path = none) :
    held (calls ++ [call]) loads path = held calls loads path := by
  rw [held, latestInsert_append, h, Option.none_or, held]

/-- A call that inserts nothing and is about no module that is new leaves everything as it is. -/
theorem Recalls.again (h : Recalls calls s) (hinserted : ∀ path, call.inserted? path = none)
    (hmem : ∀ path, call.path? = some path → path.components ∈ mentioned calls) :
    Recalls (calls ++ [call]) s := by
  have hmentioned : ∀ components,
      components ∈ mentioned (calls ++ [call]) ↔ components ∈ mentioned calls := by
    intro components
    rw [mem_mentioned_append]
    constructor
    · rintro (h | h)
      · exact h
      · obtain ⟨path, hpath, rfl⟩ := Option.map_eq_some_iff.mp h
        exact hmem path hpath
    · exact .inl
  refine ⟨?_, h.nodup, ?_, ?_⟩
  · intro path hpath
    rw [held_append_of_none _ (hinserted path)]
    exact h.answer path ((hmentioned _).mp hpath)
  · intro components
    rw [hmentioned]
    exact h.modules components
  · intro path
    rw [h.loads]
    by_cases hpath : path.components ∈ mentioned calls
    · rw [askedFirst_append_of_mem hpath]
    · have habout : call.about path = false := by
        rw [Bool.eq_false_iff]
        intro habout
        obtain ⟨other, hother, hsame⟩ := about_iff.mp habout
        exact hpath (hsame ▸ hmem other hother)
      rw [askedFirst_append_of_not_mem hpath, askedFirst_of_not_mem hpath, habout, Bool.false_and]

/-- A module that is new is loaded when it is asked for. -/
theorem Recalls.load (h : Recalls calls s) (load : Load) (hpath : call.path? = some load.path)
    (hquery : call.isQuery = true) (hnew : load.path.components ∉ mentioned calls) :
    Recalls (calls ++ [call])
      ⟨s.resolver.remember load.path load.found, s.loads ++ [load]⟩ := by
  obtain ⟨path, outcome⟩ := load
  have hcount : ∀ other, path.Same other → loadCount s.loads other = 0 := by
    intro other hsame
    rw [h.loads, askedFirst_of_not_mem (hsame ▸ hnew), if_neg Bool.false_ne_true]
  refine ⟨?_, nodup_modules_remember h.nodup _ _, ?_, ?_⟩
  · intro other hother
    rw [cached?_remember, held_append_of_none _ (inserted?_of_isQuery hquery), held]
    by_cases hsame : path.Same other
    · have hloaded : loaded (s.loads ++ [⟨path, outcome⟩]) other = Load.found ⟨path, outcome⟩ :=
        loaded_append_of_same (hcount other hsame) hsame
      rw [if_pos hsame, latestInsert_of_not_mem (hsame ▸ hnew), Option.none_or, hloaded]
    · rw [mem_mentioned_append, hpath] at hother
      have hmem : other.components ∈ mentioned calls :=
        hother.resolve_right fun heq => hsame (Option.some.inj heq)
      have hloaded : loaded (s.loads ++ [⟨path, outcome⟩]) other = loaded s.loads other :=
        loaded_append_of_not_same hsame
      rw [if_neg hsame, hloaded]
      exact h.answer other hmem
  · intro components
    rw [mem_modules_remember, mem_mentioned_append, h.modules, hpath, Option.map_some,
      Option.some.injEq, eq_comm]
  · intro other
    rw [loadCount_append, h.loads]
    by_cases hsame : path.Same other
    · have hnot : other.components ∉ mentioned calls := hsame ▸ hnew
      rw [if_pos hsame, askedFirst_of_not_mem hnot, askedFirst_append_of_not_mem hnot,
        about_eq hpath, decide_eq_true hsame, hquery]
      rfl
    · rw [if_neg hsame]
      by_cases hmem : other.components ∈ mentioned calls
      · rw [askedFirst_append_of_mem hmem]
        rfl
      · rw [askedFirst_append_of_not_mem hmem, askedFirst_of_not_mem hmem, about_eq hpath,
          decide_eq_false hsame, Bool.false_and]
        rfl

theorem Recalls.insert (h : Recalls calls s) (path : ModulePath) (atlas : Atlas) :
    Recalls (calls ++ [.insert path atlas]) ⟨s.resolver.insert path atlas, s.loads⟩ := by
  have hpath : (Call.insert path atlas).path? = some path := rfl
  have hquery : (Call.insert path atlas).isQuery = false := rfl
  refine ⟨?_, nodup_modules_remember h.nodup _ _, ?_, ?_⟩
  · intro other hother
    rw [Resolver.insert, cached?_remember, held, latestInsert_append, Call.inserted?]
    by_cases hsame : path.Same other
    · rw [if_pos hsame, if_pos hsame]
      rfl
    · rw [mem_mentioned_append, hpath] at hother
      have hmem : other.components ∈ mentioned calls :=
        hother.resolve_right fun heq => hsame (Option.some.inj heq)
      rw [if_neg hsame, if_neg hsame, Option.none_or]
      exact h.answer other hmem
  · intro components
    rw [Resolver.insert, mem_modules_remember, mem_mentioned_append, h.modules, hpath,
      Option.map_some, Option.some.injEq, eq_comm]
  · intro other
    rw [h.loads]
    by_cases hmem : other.components ∈ mentioned calls
    · rw [askedFirst_append_of_mem hmem]
    · rw [askedFirst_append_of_not_mem hmem, askedFirst_of_not_mem hmem, hquery,
        Bool.and_false]

/-! ### One step and all steps -/

/-- A query is answered with what its module holds afterwards. -/
theorem Recalls.query (loader : Loader) (h : Recalls calls s) (hpath : call.path? = some path)
    (hquery : call.isQuery = true) :
    ∃ r loads,
      (s.resolver.atlas (Process.asked loader) Process.silent path).run s.loads =
        ((held calls loads path, r), loads) ∧
      Recalls (calls ++ [call]) ⟨r, loads⟩ ∧ s.loads <+: loads := by
  have hinserted : ∀ other, call.inserted? other = none := fun _ => inserted?_of_isQuery hquery
  by_cases hmem : path.components ∈ mentioned calls
  · refine ⟨s.resolver, s.loads, ?_, ?_, List.prefix_refl _⟩
    · rw [run_atlas, h.answer path hmem]
    · refine h.again hinserted ?_
      intro other hother
      rw [hpath] at hother
      exact Option.some.inj hother ▸ hmem
  · have hnone : s.resolver.cached? path = none := by
      rw [← Option.not_isSome_iff_eq_none, ← mem_modules_iff, h.modules]
      exact hmem
    have hloaded := h.load ⟨path, loader s.loads path⟩ hpath hquery hmem
    refine ⟨_, _, ?_, hloaded, List.prefix_append _ _⟩
    have hsame : path.Same path := rfl
    have hcount : loadCount s.loads path = 0 := by
      rw [h.loads, askedFirst_of_not_mem hmem, if_neg Bool.false_ne_true]
    have hanswer : loaded (s.loads ++ [⟨path, loader s.loads path⟩]) path =
        Load.found ⟨path, loader s.loads path⟩ := loaded_append_of_same hcount hsame
    rw [run_atlas, hnone, held, latestInsert_of_not_mem hmem, Option.none_or, hanswer]

theorem Recalls.step (loader : Loader) (h : Recalls calls s) (call : Call) :
    Recalls (calls ++ [call]) (s.step loader call).2 ∧
      s.loads <+: (s.step loader call).2.loads ∧
      (s.step loader call).1 = expected calls (s.step loader call).2.loads call := by
  cases call with
  | resolve path id offset =>
      have hpath : (Call.resolve path id offset).path? = some path := rfl
      obtain ⟨r, loads, hrun, hrecalls, hloads⟩ := h.query loader hpath rfl
      rw [Process.step, run_resolve, hrun]
      exact ⟨hrecalls, hloads, rfl⟩
  | atlas path =>
      have hpath : (Call.atlas path).path? = some path := rfl
      obtain ⟨r, loads, hrun, hrecalls, hloads⟩ := h.query loader hpath rfl
      rw [Process.step, hrun]
      exact ⟨hrecalls, hloads, rfl⟩
  | insert path atlas => exact ⟨h.insert path atlas, List.prefix_refl _, rfl⟩
  | size =>
      refine ⟨h.again (fun _ => rfl) ?_, List.prefix_refl _, ?_⟩
      · intro path hpath
        cases hpath
      · exact congrArg Reply.size h.size_eq

/-- Later loads do not change what a call should be answered. -/
theorem Recalls.expected_eq {later : List Load} (h : Recalls (calls ++ [call]) s)
    (hloads : s.loads <+: later) : expected calls later call = expected calls s.loads call := by
  have hheld : ∀ path, call.path? = some path → call.isQuery = true →
      held calls later path = held calls s.loads path := by
    intro path hpath hquery
    rw [held, held]
    cases hlatest : latestInsert calls path with
    | some found => rfl
    | none =>
        have habout : call.about path = true := by
          rw [about_eq hpath]
          exact decide_eq_true rfl
        have hcount : 0 < loadCount s.loads path := by
          rw [h.loads, askedFirst_of_latestInsert hlatest habout hquery]
          decide
        rw [loaded_of_isPrefix hloads hcount]
  cases call with
  | resolve path id offset => rw [expected, expected, hheld path rfl rfl]
  | atlas path => rw [expected, expected, hheld path rfl rfl]
  | insert path atlas => rfl
  | size => rfl

theorem Recalls.run (loader : Loader) (h : Recalls calls s) (more : List Call) :
    Recalls (calls ++ more) (s.run loader more).2 ∧
      s.loads <+: (s.run loader more).2.loads ∧
      (s.run loader more).1 =
        more.mapIdx fun i call =>
          expected (calls ++ more.take i) (s.run loader more).2.loads call := by
  induction more generalizing calls s with
  | nil =>
      rw [List.append_nil]
      exact ⟨h, List.prefix_refl _, rfl⟩
  | cons call rest ih =>
      obtain ⟨hstep, hloads, hreply⟩ := h.step loader call
      obtain ⟨hrun, hmore, hreplies⟩ := ih hstep
      rw [List.append_assoc] at hrun
      refine ⟨hrun, hloads.trans hmore, ?_⟩
      have hcons : s.run loader (call :: rest) =
          ((s.step loader call).1 :: ((s.step loader call).2.run loader rest).1,
            ((s.step loader call).2.run loader rest).2) :=
        rfl
      rw [hcons, List.mapIdx_cons, hreply, ← hstep.expected_eq hmore, hreplies]
      simp [List.append_assoc]

end Recalls

/-! ### The loads of a run -/

section Answered

variable {loader : Loader}

theorem answered_append {loads : List Load} (h : Answered loader loads) (path : ModulePath) :
    Answered loader (loads ++ [⟨path, loader loads path⟩]) := by
  intro i load hload
  by_cases hi : i < loads.length
  · rw [List.getElem?_append_left hi] at hload
    rw [List.take_append_of_le_length (Nat.le_of_lt hi)]
    exact h i load hload
  · have hlast : i = loads.length := by
      have hlength := (List.getElem?_eq_some_iff.mp hload).1
      rw [List.length_append, List.length_singleton] at hlength
      omega
    subst hlast
    rw [List.getElem?_concat_length] at hload
    cases hload
    rw [List.take_left]

theorem answered_atlas {loads : List Load} (h : Answered loader loads) (path : ModulePath)
    (r : Resolver) :
    Answered loader ((r.atlas (Process.asked loader) Process.silent path).run loads).2 := by
  rw [run_atlas]
  cases r.cached? path with
  | some answer => exact h
  | none => exact answered_append h path

theorem answered_step {s : Process} (h : Answered loader s.loads) (call : Call) :
    Answered loader (s.step loader call).2.loads := by
  cases call with
  | resolve path id offset =>
      rw [Process.step, run_resolve]
      exact answered_atlas h path s.resolver
  | atlas path => exact answered_atlas h path s.resolver
  | insert path atlas => exact h
  | size => exact h

theorem answered_run {s : Process} (h : Answered loader s.loads) (calls : List Call) :
    Answered loader (s.run loader calls).2.loads := by
  induction calls generalizing s with
  | nil => exact h
  | cons call rest ih => exact ih (answered_step h call)

end Answered

/--
Whatever a loader answers and whatever is called in whatever order, a module is loaded once if it is
asked for before anything is inserted for it and never otherwise; a load comes to what the loader
says then; every reply is the one that the calls before it and these loads determine; and one answer
is remembered for every module.
-/
theorem run_start (loader : Loader) (calls : List Call) :
    (∀ path, loadCount (Process.start.run loader calls).2.loads path =
      if askedFirst calls path then 1 else 0) ∧
    Answered loader (Process.start.run loader calls).2.loads ∧
    (Process.start.run loader calls).1 =
      calls.mapIdx (fun i call =>
        expected (calls.take i) (Process.start.run loader calls).2.loads call) ∧
    (Process.start.run loader calls).2.resolver.size = (mentioned calls).dedup.length := by
  obtain ⟨hrecalls, -, hreplies⟩ := recalls_start.run loader calls
  have hnone : Answered loader Process.start.loads := by
    intro i load hload
    cases hload
  exact ⟨hrecalls.loads, answered_run hnone calls, hreplies, hrecalls.size_eq⟩

/-! ### A loader that changes its mind -/

/-- The first load of all comes to an atlas, the second to none, and every later one to a fault. -/
def waveringLoader : Loader := fun loads path =>
  match loads with
  | [] => .ok (some ((Atlas.empty.addSymbol ⟨⟨7⟩, "main", ⟨16⟩⟩).1.addMark 3 ⟨16⟩ "main.c" "").1)
  | [_] => .ok none
  | _ => .error (.moduleMissing path.text)

/-- The atlas that was loaded answers under every spelling of its module, and stays. -/
example :
    (Process.start.run waveringLoader [.resolve ⟨"lib//app"⟩ ⟨7⟩ 4, .resolve ⟨"other"⟩ ⟨7⟩ 4,
      .resolve ⟨"gone"⟩ ⟨7⟩ 4, .resolve ⟨"lib/./app/"⟩ ⟨7⟩ 8, .size]).1 =
      [.position (some ⟨3, "main.c"⟩), .position none, .position none,
        .position (some ⟨3, "main.c"⟩), .size 3] := by
  decide +kernel

end CallSite.Resolver
