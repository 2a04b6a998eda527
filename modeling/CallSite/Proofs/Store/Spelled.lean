import CallSite.Proofs.Build.Sequence
import CallSite.Proofs.FileStore.Alike

/-!
# Modules by other spellings

A resolver takes paths of the same components for one module. They load the same, and it makes no
difference which of them a resolver is asked for, if both or neither ask for a directory. A path that
asks for one loads no atlas, and if it is the first that a resolver is asked for, then there is none
for the others.
-/

namespace CallSite.Store

/-! ### Two spellings -/

section Spellings

variable {a b path : ModulePath} (files : FileStore)

/-- What is read beside a path that asks for a directory makes no difference. -/
theorem found_of_asksDirectory (hasks : path.asksDirectory = true) (hne : path.text.toList ≠ []) :
    found (files.read path.text) (files.read path.sidecar.text) =
      found (files.read path.text) (.error .missing) := by
  cases hread : files.read path.text with
  | ok image => exact absurd hread (FileStore.read_of_asksDirectory hasks image)
  | error fault =>
      cases fault with
      | missing =>
          have hbeside : files.read path.sidecar.text = .error .missing :=
            FileStore.read_extended_of_asksDirectory hasks isExtension_sidecar hne hread
          rw [hbeside]
      | _ => rfl

theorem loaded_alike (h : a.Alike b) : loaded files a = loaded files b := by
  have himage : files.read a.text = files.read b.text := FileStore.read_alike files h
  have hblob : found (files.read a.text) (files.read a.sidecar.text) =
      found (files.read b.text) (files.read b.sidecar.text) := by
    cases hasks : a.asksDirectory with
    | false =>
        have hbeside : files.read a.sidecar.text = files.read b.sidecar.text :=
          FileStore.read_alike files (h.extended isExtension_sidecar hasks)
        rw [himage, hbeside]
    | true =>
        by_cases hempty : a.text.toList = []
        · have hempty' : b.text.toList = [] := by
            rw [← ModulePath.components_eq_nil, ← h.same, ModulePath.components_eq_nil, hempty]
          have htext : a.text = b.text := String.toList_inj.mp (hempty.trans hempty'.symm)
          simp only [ModulePath.sidecar, ModulePath.extended, htext]
        · have hne' : b.text.toList ≠ [] := by
            rwa [ne_eq, ← ModulePath.components_eq_nil, ← h.same, ModulePath.components_eq_nil]
          rw [found_of_asksDirectory files hasks hempty,
            found_of_asksDirectory files (h.ending ▸ hasks) hne', himage]
  rw [loaded, loaded, hblob]

/-- A path that asks for a directory never leads to an atlas, unless it has no components. -/
theorem loaded_ne_of_asksDirectory (hasks : path.asksDirectory = true)
    (hne : path.components ≠ []) (atlas : Atlas) : loaded files path ≠ .ok (some atlas) := by
  have hne' : path.text.toList ≠ [] := ModulePath.components_eq_nil.not.mp hne
  rw [loaded, found_of_asksDirectory files hasks hne']
  cases hread : files.read path.text with
  | ok image => exact absurd hread (FileStore.read_of_asksDirectory hasks image)
  | error fault =>
      intro hloaded
      cases fault <;> cases hloaded

end Spellings

/-! ### Asking in turn -/

/-- A call site that a resolver is asked for. -/
structure Query where
  path : ModulePath
  id : SymbolId
  offset : Int64

namespace Query

/-- The same call site by a path that is alike. -/
structure Alike (q q' : Query) : Prop where
  path : q.path.Alike q'.path
  id : q.id = q'.id
  offset : q.offset = q'.offset

end Query

/-- The positions of call sites that are asked for in turn. -/
def positions (r : Resolver) : List Query → StateM Surroundings (List (Option Position))
  | [] => pure []
  | q :: rest => do
      let (found, r) ← resolve q.path q.id q.offset r
      let more ← positions r rest
      pure (found :: more)

/-- Call sites of a module that a resolver remembers. -/
theorem positions_of_cached {answer : Option Atlas} {queries : List Query} {r : Resolver}
    (hcached : ∀ q ∈ queries, r.cached? q.path = some answer) (s : Surroundings) :
    ((positions r queries).run s).1 =
      queries.map fun q => answer.bind fun atlas => atlas.locate q.id q.offset := by
  induction queries generalizing r s with
  | nil => rfl
  | cons q rest ih =>
      obtain ⟨r', s', hrun, hasked⟩ := exists_run_resolve q.path q.id q.offset r s
      have hheld : held r s.files q.path = answer := by
        rw [held, hcached q List.mem_cons_self, Option.getD_some]
      have hrest : ∀ q' ∈ rest, r'.cached? q'.path = some answer := by
        intro q' hq'
        rw [hasked.cached, hheld, hcached q' (List.mem_cons_of_mem _ hq'), ite_self]
      rw [hheld] at hrun
      simp only [positions, StateT.run_bind, hrun]
      exact congrArg (_ :: ·) (ih hrest s')

/-- All call sites of a module are answered by the spelling that was asked for first. -/
theorem positions_of_same {q : Query} {rest : List Query}
    (hsame : ∀ q' ∈ rest, q.path.Same q'.path) (r : Resolver) (s : Surroundings) :
    ((positions r (q :: rest)).run s).1 = (q :: rest).map fun q' =>
      (held r s.files q.path).bind fun atlas => atlas.locate q'.id q'.offset := by
  obtain ⟨r', s', hrun, hasked⟩ := exists_run_resolve q.path q.id q.offset r s
  have hrest : ∀ q' ∈ rest, r'.cached? q'.path = some (held r s.files q.path) := by
    intro q' hq'
    rw [hasked.cached, if_pos (hsame q' hq')]
  simp only [positions, StateT.run_bind, hrun]
  exact congrArg (_ :: ·) (positions_of_cached hrest s')

/-- Two resolvers that remember the same, in surroundings of the same files. -/
structure Agree (r r' : Resolver) (s s' : Surroundings) : Prop where
  cached : ∀ path, r.cached? path = r'.cached? path
  files : s.files = s'.files

section Agree

variable {r r' : Resolver} {s s' : Surroundings}

theorem Agree.held {a b : ModulePath} (h : Agree r r' s s') (halike : a.Alike b) :
    held r s.files a = held r' s'.files b := by
  have hcached : r.cached? a = r'.cached? b := (h.cached a).trans (r'.cached?_same halike.same)
  have hanswer : ∀ result, (Resolver.ofLoad a result).1 = (Resolver.ofLoad b result).1 := by
    intro result
    cases result with
    | error fault => rfl
    | ok found => cases found <;> rfl
  rw [Store.held, Store.held, hcached, h.files, loaded_alike s'.files halike, hanswer]

/-- One call site asked for by two spellings. -/
theorem Agree.step {q q' : Query} (h : Agree r r' s s') (halike : q.Alike q') :
    ∃ position next next' after after',
      (resolve q.path q.id q.offset r).run s = ((position, next), after) ∧
        (resolve q'.path q'.id q'.offset r').run s' = ((position, next'), after') ∧
        Agree next next' after after' := by
  obtain ⟨next, after, hrun, hasked⟩ := exists_run_resolve q.path q.id q.offset r s
  obtain ⟨next', after', hrun', hasked'⟩ := exists_run_resolve q'.path q'.id q'.offset r' s'
  have hheld := h.held halike.path
  rw [← hheld, ← halike.id, ← halike.offset] at hrun'
  refine ⟨_, next, next', after, after', hrun, ?_, ?_, ?_⟩
  · rw [← halike.id, ← halike.offset]
    exact hrun'
  · intro other
    have hother : q.path.Same other ↔ q'.path.Same other :=
      ⟨halike.path.same.symm.trans, halike.path.same.trans⟩
    rw [hasked.cached, hasked'.cached, hheld, h.cached]
    simp only [hother]
  · rw [hasked.files, hasked'.files, h.files]

/-- Call sites asked for in turn, each by two spellings. -/
theorem Agree.run {queries queries' : List Query} (h : Agree r r' s s')
    (halike : List.Forall₂ Query.Alike queries queries') :
    ((positions r queries).run s).1 = ((positions r' queries').run s').1 := by
  induction halike generalizing r r' s s' with
  | nil => rfl
  | cons hq _ ih =>
      obtain ⟨position, next, next', after, after', hrun, hrun', hagree⟩ := h.step hq
      simp only [positions, StateT.run_bind, hrun, hrun']
      exact congrArg (position :: ·) (ih hagree)

end Agree

/--
Paths of the same components load the same if both or neither ask for a directory, and then it makes
no difference to the answers of a resolver which of them it is asked for. One that asks for a directory
where the other does not loads no atlas.
-/
theorem load_and_positions_of_alike (s : Surroundings) :
    (∀ a b : ModulePath, a.Same b →
      (a.asksDirectory = b.asksDirectory →
        ((load a).outcome s).1 = ((load b).outcome s).1) ∧
      (a.asksDirectory = true → b.asksDirectory = false →
        ∀ atlas, ((load a).outcome s).1 ≠ .ok (some atlas))) ∧
    ∀ (r : Resolver) (queries queries' : List Query), List.Forall₂ Query.Alike queries queries' →
      ((positions r queries).run s).1 = ((positions r queries').run s).1 := by
  refine ⟨?_, ?_⟩
  · intro a b hsame
    rw [outcome_load_fst, outcome_load_fst]
    refine ⟨fun hending => loaded_alike s.files ⟨hsame, hending⟩, ?_⟩
    intro hasks hasks'
    refine loaded_ne_of_asksDirectory s.files hasks ?_
    intro hnil
    have hasksToo : b.asksDirectory = true :=
      ModulePath.asksDirectory_of_components_eq_nil ((Eq.symm hsame).trans hnil)
    rw [hasks'] at hasksToo
    cases hasksToo
  · intro r queries queries' halike
    exact Agree.run ⟨fun _ => rfl, rfl⟩ halike

/-! ### A map without an image -/

/-- A working directory with a file in it, which stands beside a module. -/
def besideFiles (blob : Bytes) : FileStore :=
  ⟨["w"], [([], .directory), (["w"], .directory), (["w", "app.lmp"], .file blob 0o644)]⟩

def besideJob : Build.Job where
  build := ⟨⟨"app"⟩, ⟨.beside, false, none⟩, .empty⟩
  feed := ⟨.ofItems [⟨⟨7⟩, "main", ⟨16⟩, true⟩], .ofItems [⟨⟨16⟩, 3, "main.c", ""⟩]⟩

/-- The surroundings of a module of which there is the map only. -/
def besideSample : Surroundings :=
  ⟨besideFiles besideJob.blob, []⟩

theorem decoded_besideJob : decoded besideJob.blob = .ok (some besideJob.atlas) := by
  have hsize : besideJob.atlas.Storable := by
    unfold Atlas.Storable
    decide +kernel
  exact decoded_encode (Blob.decode_encode_version hsize.addressable 1)

theorem loaded_besideFiles (blob : Bytes) :
    loaded (besideFiles blob) ⟨"app"⟩ = decoded blob ∧
      loaded (besideFiles blob) ⟨"./app"⟩ = decoded blob ∧
      loaded (besideFiles blob) ⟨"app/"⟩ = .ok none :=
  ⟨rfl, rfl, rfl⟩

theorem load_and_positions_of_alike_dotted :
    (ModulePath.mk "./app").Same ⟨".//app"⟩ ∧ (ModulePath.mk "./app/").Same ⟨"./app"⟩ ∧
      ((load ⟨"./app"⟩).outcome besideSample).1 = .ok (some besideJob.atlas) ∧
      ((load ⟨".//app"⟩).outcome besideSample).1 = .ok (some besideJob.atlas) ∧
      ((load ⟨"./app/"⟩).outcome besideSample).1 ≠ .ok (some besideJob.atlas) ∧
      ((positions .empty [⟨⟨"./app"⟩, ⟨7⟩, 4⟩, ⟨⟨".//app"⟩, ⟨7⟩, 0⟩]).run besideSample).1 =
        ((positions .empty [⟨⟨".//app"⟩, ⟨7⟩, 4⟩, ⟨⟨"./app"⟩, ⟨7⟩, 0⟩]).run besideSample).1 := by
  have hsame : (ModulePath.mk "./app").Same ⟨".//app"⟩ := by decide
  have hsame' : (ModulePath.mk "./app/").Same ⟨"./app"⟩ := by decide
  have hending : (ModulePath.mk "./app").asksDirectory = (ModulePath.mk ".//app").asksDirectory := by
    decide
  obtain ⟨hload, hpositions⟩ := load_and_positions_of_alike besideSample
  have hfirst : ((load ⟨"./app"⟩).outcome besideSample).1 = .ok (some besideJob.atlas) := by
    rw [outcome_load_fst, besideSample, (loaded_besideFiles _).2.1, decoded_besideJob]
  refine ⟨hsame, hsame', hfirst, ?_, ?_, ?_⟩
  · rw [← (hload _ _ hsame).1 hending, hfirst]
  · exact (hload _ _ hsame').2 (by decide) (by decide) _
  · refine hpositions _ _ _ (.cons ⟨⟨hsame, hending⟩, rfl, rfl⟩ (.cons ?_ .nil))
    exact ⟨⟨hsame.symm, hending.symm⟩, rfl, rfl⟩

/-- With a separator at its end, the path of a module is the same, but nothing is loaded for it, and a
resolver that was asked for it first has no answer without the separator either. -/
theorem load_of_same_separated :
    (ModulePath.mk "app").Same ⟨"app/"⟩ ∧
      ((load ⟨"app"⟩).outcome besideSample).1 = .ok (some besideJob.atlas) ∧
      ((load ⟨"app/"⟩).outcome besideSample).1 = .ok none ∧
      ((positions .empty [⟨⟨"app"⟩, ⟨7⟩, 4⟩, ⟨⟨"app/"⟩, ⟨7⟩, 4⟩]).run besideSample).1 =
        [some ⟨3, "main.c"⟩, some ⟨3, "main.c"⟩] ∧
      ((positions .empty [⟨⟨"app/"⟩, ⟨7⟩, 4⟩, ⟨⟨"app"⟩, ⟨7⟩, 4⟩]).run besideSample).1 =
        [none, none] := by
  have hsame : (ModulePath.mk "app").Same ⟨"app/"⟩ := by decide
  have hloaded : loaded besideSample.files ⟨"app"⟩ = .ok (some besideJob.atlas) := by
    rw [besideSample, (loaded_besideFiles _).1, decoded_besideJob]
  have hloaded' : loaded besideSample.files ⟨"app/"⟩ = .ok none := by
    rw [besideSample, (loaded_besideFiles _).2.2]
  have hheld : held .empty besideSample.files ⟨"app"⟩ = some besideJob.atlas := by
    rw [held_empty, hloaded, Resolver.ofLoad]
  have hheld' : held .empty besideSample.files ⟨"app/"⟩ = none := by
    rw [held_empty, hloaded', Resolver.ofLoad]
  have hlocate : besideJob.atlas.locate ⟨7⟩ 4 = some ⟨3, "main.c"⟩ := by decide +kernel
  refine ⟨hsame, ?_, ?_, ?_, ?_⟩
  · rw [outcome_load_fst, hloaded]
  · rw [outcome_load_fst, hloaded']
  · rw [positions_of_same (by simpa using hsame)]
    simp only [List.map_cons, List.map_nil, hheld, Option.bind_some, hlocate]
  · rw [positions_of_same (by simpa using hsame.symm)]
    simp only [List.map_cons, List.map_nil, hheld', Option.bind_none]

end CallSite.Store
