import CallSite.Proofs.Resolver.Cache
import CallSite.Proofs.Session
import CallSite.Proofs.Trailer
import CallSite.Store.Resolving

/-!
# Loading what is stored

What is loaded for a module is said by what is read at its path and beside it: the blob that an image
carries is the one that is loaded, and the file beside the image counts only when the image carries
none or is missing. A resolver answers from what it remembers, or else from the atlas that is loaded.
-/

namespace CallSite.Store

open Session

/-- What loading makes of the blob that it finds. -/
def decoded (blob : Bytes) : Except Fault (Option Atlas) :=
  match Blob.decode blob with
  | .ok atlas => .ok (some atlas)
  | .error fault => .error (.blob fault)

theorem decoded_encode {atlas : Atlas} (h : Blob.decode (Blob.encode atlas).bytes = .ok atlas) :
    decoded (Blob.encode atlas).bytes = .ok (some atlas) := by
  rw [decoded, h]

/-! ### Finding a blob -/

theorem imageBlob_append (image : Bytes) {blob : Bytes} (h : blob.length < UInt64.size) :
    imageBlob (Trailer.append image blob) = (some blob, []) := by
  rw [imageBlob, Trailer.find?_append image h]

/-- The content of a file, none if there is no such file. -/
def present : Except FileFault Bytes → Except FileFault (Option Bytes)
  | .ok content => .ok (some content)
  | .error .missing => .ok none
  | .error fault => .error fault

/-- The blob of a module, by what is read at its path and what is read beside it. -/
def found (image beside : Except FileFault Bytes) : Except FileFault (Option Bytes) :=
  match image with
  | .ok image =>
      match (imageBlob image).1 with
      | some blob => .ok (some blob)
      | none => present beside
  | .error .missing => present beside
  | .error fault => .error fault

/-- What loading a module comes to. -/
def loaded (files : FileStore) (path : ModulePath) : Except Fault (Option Atlas) :=
  match found (files.read path.text) (files.read path.sidecar.text) with
  | .ok none => .ok none
  | .ok (some blob) => decoded blob
  | .error fault => .error (.file fault)

theorem effect_orNone {α : Type} (session : Session FileFault (Option α)) (s : Surroundings) :
    (orNone session).effect s =
      match session.effect s with
      | (.error .missing, files) => (.ok none, files)
      | (result, files) => (result, files) := by
  rw [effect, effect, orNone, outcome_tryCatch]
  cases session.outcome s with
  | mk result after =>
      cases result with
      | ok found => rfl
      | error fault => cases fault <;> rfl

section Path

variable (path : ModulePath) (s : Surroundings)

/-- The blob of an image that can be read, and what there is to tell of it. -/
theorem outcome_readEmbedded {image : Bytes} (h : s.files.read path.text = .ok image) :
    (readEmbedded path).outcome s =
      (.ok (imageBlob image).1, { s with told := (imageBlob image).2.reverse ++ s.told }) := by
  have htrailer : (liftM (Trailer.read (.ofBytes image)) : Session FileFault _).outcome s =
      (.ok (Trailer.find? image), s) := by
    rw [Trailer.read_ofBytes]
    rfl
  rw [readEmbedded, outcome_bind, outcome_readFile, h]
  simp only []
  rw [outcome_bind, htrailer, imageBlob]
  cases Trailer.find? image <;> rfl

theorem effect_readEmbedded :
    (readEmbedded path).effect s =
      ((s.files.read path.text).map fun image => (imageBlob image).1, s.files) := by
  cases hread : s.files.read path.text with
  | ok image =>
      rw [effect_eq (outcome_readEmbedded path s hread)]
      rfl
  | error fault =>
      rw [effect, readEmbedded, outcome_bind, outcome_readFile, hread]
      rfl

/-- The blob of the image alone, none also if there is no image. -/
theorem effect_orNone_readEmbedded :
    (orNone (readEmbedded path)).effect s =
      ((present (s.files.read path.text)).map (·.bind fun image => (imageBlob image).1),
        s.files) := by
  rw [effect_orNone, effect_readEmbedded]
  cases s.files.read path.text with
  | ok image => rfl
  | error fault => cases fault <;> rfl

theorem effect_readSidecar :
    (readSidecar path).effect s = (present (s.files.read path.sidecar.text), s.files) := by
  have hsome : (some <$> Session.readFile path.sidecar.text).effect s =
      ((s.files.read path.sidecar.text).map some, s.files) := by
    rw [map_eq_pure_bind, effect, outcome_bind, outcome_readFile]
    cases s.files.read path.sidecar.text <;> rfl
  rw [readSidecar, effect_orNone, hsome]
  cases s.files.read path.sidecar.text with
  | ok blob => rfl
  | error fault => cases fault <;> rfl

/-- The blob of an image that can be read, or else what is read beside it. -/
theorem effect_readBlob :
    (readBlob path).effect s =
      (found (s.files.read path.text) (s.files.read path.sidecar.text), s.files) := by
  have hlater : ∀ blob s', s'.files = s.files →
      (match blob with
        | some blob => pure (some blob)
        | none => readSidecar path : Session FileFault _).effect s' =
      (match blob with
        | some blob => .ok (some blob)
        | none => present (s.files.read path.sidecar.text), s.files) := by
    intro blob s' hfiles
    cases blob with
    | some blob => rw [← hfiles]; rfl
    | none => rw [effect_readSidecar, hfiles]
  have himage := effect_orNone_readEmbedded path s
  rw [readBlob, effect, outcome_bind]
  cases houtcome : (orNone (readEmbedded path)).outcome s with
  | mk result between =>
      rw [effect_eq houtcome] at himage
      obtain ⟨hresult, hfiles⟩ := Prod.mk.inj himage
      cases hread : s.files.read path.text with
      | ok image =>
          rw [hread] at hresult
          subst hresult
          exact hlater _ between hfiles
      | error fault =>
          rw [hread] at hresult
          subst hresult
          cases fault with
          | missing => exact hlater none between hfiles
          | _ => rw [← hfiles]; rfl

/-! ### Loading -/

/-- Loading comes to what the store says of the module, and leaves the store as it was. -/
theorem effect_load : (load path).effect s = (loaded s.files path, s.files) := by
  have hblob := effect_readBlob path s
  rw [load, effect, outcome_bind, asFault, outcome_mapFault]
  cases houtcome : (readBlob path).outcome s with
  | mk result after =>
      rw [effect_eq houtcome] at hblob
      obtain ⟨hresult, hfiles⟩ := Prod.mk.inj hblob
      rw [loaded, ← hresult, ← hfiles]
      cases result with
      | error fault => rfl
      | ok blob =>
          cases blob with
          | none => rfl
          | some blob =>
              simp only [decoded]
              cases Blob.decode blob <;> rfl

theorem outcome_load_fst : ((load path).outcome s).1 = loaded s.files path :=
  congrArg Prod.fst (effect_load path s)

end Path

section Image

variable {path : ModulePath} {s : Surroundings} {image blob : Bytes}

/-- An image that carries a blob is loaded from it. -/
theorem load_of_imageBlob (h : s.files.read path.text = .ok image)
    (hblob : (imageBlob image).1 = some blob) : ((load path).outcome s).1 = decoded blob := by
  rw [outcome_load_fst, loaded, h, found, hblob]

/-- An image that carries no blob is loaded from the file beside it. -/
theorem load_of_sidecar (h : s.files.read path.text = .ok image)
    (hnone : (imageBlob image).1 = none) (hsidecar : s.files.read path.sidecar.text = .ok blob) :
    ((load path).outcome s).1 = decoded blob := by
  rw [outcome_load_fst, loaded, h, found, hnone, hsidecar, present]

end Image

/-! ### Resolving -/

/-- The atlas that a resolver answers from. -/
def held (r : Resolver) (files : FileStore) (path : ModulePath) : Option Atlas :=
  (r.cached? path).getD (Resolver.ofLoad path (loaded files path)).1

theorem held_empty (files : FileStore) (path : ModulePath) :
    held .empty files path = (Resolver.ofLoad path (loaded files path)).1 :=
  rfl

/-- What a resolver remembers after it was asked for a module, and the surroundings after it. -/
structure AskedFor (r : Resolver) (s : Surroundings) (path : ModulePath) (r' : Resolver)
    (s' : Surroundings) : Prop where
  cached : ∀ other, r'.cached? other =
    if path.Same other then some (held r s.files path) else r.cached? other
  files : s'.files = s.files

/-- Telling changes no file. -/
theorem files_forM_tell (events : List Event) (s : Surroundings) :
    ((events.forM tell).run s).2.files = s.files := by
  induction events generalizing s with
  | nil => rfl
  | cons event rest ih => exact ih { s with told := event :: s.told }

theorem exists_run_atlas (path : ModulePath) (r : Resolver) (s : Surroundings) :
    ∃ r' s', (atlas path r).run s = ((held r s.files path, r'), s') ∧ AskedFor r s path r' s' := by
  cases hcached : r.cached? path with
  | some answer =>
      have hheld : held r s.files path = answer := by rw [held, hcached, Option.getD_some]
      refine ⟨r, s, ?_, ?_, rfl⟩
      · rw [atlas, Resolver.atlas, hcached, hheld]
        rfl
      · intro other
        split
        · rename_i hsame
          rw [← r.cached?_same hsame, hcached, hheld]
        · rfl
  | none =>
      obtain ⟨hresult, hfiles⟩ := Prod.mk.inj (effect_load path s)
      have hheld : held r s.files path = (Resolver.ofLoad path (loaded s.files path)).1 := by
        rw [held, hcached, Option.getD_none]
      have hload : (load path).run.run s = (loaded s.files path, ((load path).outcome s).2) := by
        rw [← hresult]
        rfl
      refine ⟨r.remember path (held r s.files path),
        (((Resolver.ofLoad path (loaded s.files path)).2.forM tell).run
          ((load path).outcome s).2).2, ?_, fun other => r.cached?_remember path other _, ?_⟩
      · rw [atlas, Resolver.atlas, hcached, hheld]
        simp only [StateT.run_bind, hload]
        rfl
      · exact (files_forM_tell _ _).trans hfiles

theorem exists_run_resolve (path : ModulePath) (id : SymbolId) (offset : Int64) (r : Resolver)
    (s : Surroundings) :
    ∃ r' s', (resolve path id offset r).run s =
        (((held r s.files path).bind fun atlas => atlas.locate id offset, r'), s') ∧
      AskedFor r s path r' s' := by
  obtain ⟨r', s', hatlas, hasked⟩ := exists_run_atlas path r s
  obtain ⟨s'', hrun, hs''⟩ := Resolver.exists_run_resolve hatlas id offset
  refine ⟨r', s'', hrun, hasked.cached, ?_⟩
  rcases hs'' with rfl | rfl
  · exact hasked.files
  · exact hasked.files

/-- A new resolver answers from the atlas that is loaded. -/
theorem resolve_empty {path : ModulePath} {s : Surroundings} {atlas : Atlas} (id : SymbolId)
    (offset : Int64) (h : ((load path).outcome s).1 = .ok (some atlas)) :
    ((resolve path id offset .empty).run s).1.1 = atlas.locate id offset := by
  obtain ⟨r', s', hrun, -⟩ := exists_run_resolve path id offset .empty s
  rw [hrun, held_empty, ← outcome_load_fst, h]
  rfl

end CallSite.Store
