import CallSite.Proofs.Blob.Size
import CallSite.Proofs.Build.Running
import CallSite.Proofs.FileStore.Beside
import CallSite.Proofs.Store.Loading

/-!
# Runs of one module in turn

Runs without an output of their own leave two things behind: the image with the blob that was
embedded last, and beside it the blob that was put there last. Neither run takes away what the other
left, and what is in the image is loaded first.
-/

namespace CallSite.Build

open FileStore Session

/-- A build and the feed that it is run on. -/
structure Job where
  build : Build
  feed : Feed

namespace Job

def atlas (job : Job) : Atlas :=
  (job.build.collect job.feed).1.atlas

def blob (job : Job) : Bytes :=
  (Blob.encode job.atlas).bytes

def embeds (job : Job) : Bool :=
  job.build.plan.placement = .image

/-- A job for the image at a path that is to stay where it is. -/
def InPlace (path : ModulePath) (job : Job) : Prop :=
  job.build.path = path ∧ job.build.plan.output = none

theorem InPlace.output_eq {path : ModulePath} {job : Job} (h : job.InPlace path) :
    job.build.output = path := by
  rw [output, h.2, h.1]

end Job

/-- Runs in turn, up to the first that fails. -/
def runAll : List Job → Session Fault Unit
  | [] => pure ()
  | job :: rest => do
      let _ ← (job.build.run job.feed).2
      runAll rest

/-! ### What is kept of a module -/

/-- The image of a module, and the blob beside it if one was put there. -/
structure Kept where
  image : Bytes
  beside : Option Bytes

namespace Kept

/-- What is kept after one more job. -/
def after (k : Kept) (job : Job) : Kept :=
  if job.embeds then { k with image := Trailer.append k.image job.blob }
  else { k with beside := some job.blob }

/-- The store holds what is kept of the module at a path. -/
structure In (k : Kept) (path : ModulePath) (files : FileStore) : Prop where
  image : ∃ l, files.HoldsAt path.text l k.image
  beside : ∀ blob, k.beside = some blob → ∃ l, files.HoldsAt path.sidecar.text l blob

section In

variable {k : Kept} {path : ModulePath} {files later : FileStore} {content : Bytes}

/-- Writing a report touches neither. -/
theorem In.writeReport (h : k.In path files)
    (hwrite : files.write path.report.text content = .ok later) : k.In path later := by
  obtain ⟨l, himage⟩ := h.image
  refine ⟨⟨l, himage.write hwrite (resolve_extended_ne isExtension_report himage.1)⟩, ?_⟩
  intro blob hblob
  obtain ⟨l', hbeside⟩ := h.beside blob hblob
  refine ⟨l', hbeside.write hwrite ?_⟩
  intro l'' hl''
  exact resolve_extended_ne_extended isExtension_sidecar isExtension_report (by decide) himage.1
    hbeside.1 hl''

theorem In.writeSidecar (h : k.In path files)
    (hwrite : files.write path.sidecar.text content = .ok later) :
    In { k with beside := some content } path later := by
  obtain ⟨l, himage⟩ := h.image
  refine ⟨⟨l, himage.write hwrite (resolve_extended_ne isExtension_sidecar himage.1)⟩, ?_⟩
  intro blob hblob
  cases hblob
  exact holdsAt_write hwrite

theorem In.writeImage (h : k.In path files)
    (hwrite : files.write path.text content = .ok later) :
    In { k with image := content } path later := by
  refine ⟨holdsAt_write hwrite, ?_⟩
  intro blob hblob
  obtain ⟨l', hbeside⟩ := h.beside blob hblob
  refine ⟨l', hbeside.write hwrite ?_⟩
  intro l hl heq
  exact resolve_extended_ne isExtension_sidecar hl l' hbeside.1 heq.symm

end In

/-! ### One run and all runs -/

section Run

variable {k : Kept} {path : ModulePath} {job : Job}

theorem In.stored {files later : FileStore} (h : k.In path files) (hjob : job.InPlace path)
    (hstored : job.build.stored job.blob files = .ok later) : (k.after job).In path later := by
  rw [Build.stored, hjob.output_eq, hjob.1] at hstored
  cases hplacement : job.build.plan.placement with
  | beside =>
      have hembeds : ¬ job.embeds = true := by simp [Job.embeds, hplacement]
      rw [hplacement] at hstored
      rw [after, if_neg hembeds]
      exact h.writeSidecar hstored
  | image =>
      have hembeds : job.embeds = true := by simp [Job.embeds, hplacement]
      rw [hplacement] at hstored
      obtain ⟨image, hread, hcopy⟩ := bind_eq_ok.mp hstored
      obtain ⟨copied, hcopied, hwrite⟩ := bind_eq_ok.mp hcopy
      have hsame : copied = files := by
        rw [Store.copied, if_pos (show path.Same path from rfl)] at hcopied
        exact (Except.ok.inj hcopied).symm
      obtain ⟨l, himage⟩ := h.image
      rw [himage.read_eq] at hread
      cases hread
      subst hsame
      rw [after, if_pos hembeds]
      exact h.writeImage hwrite

theorem In.reported {files later : FileStore} (h : k.In path files) (hjob : job.InPlace path)
    (hreported : (job.build.collect job.feed).1.reported files = .ok later) :
    k.In path later := by
  have hpath : (job.build.collect job.feed).1.path = path := hjob.1
  rw [Build.reported, hpath] at hreported
  split at hreported
  · exact h.writeReport hreported
  · cases hreported
    exact h

theorem In.run {written : ModulePath} {s s' : Surroundings} (h : k.In path s.files)
    (hjob : job.InPlace path)
    (hrun : (job.build.run job.feed).2.outcome s = (.ok written, s')) :
    (k.after job).In path s'.files := by
  obtain ⟨-, files, hstored, hreported, -⟩ := run_eq_ok hrun
  exact (h.stored hjob hstored).reported hjob hreported

theorem In.runAll {jobs : List Job} {s s' : Surroundings} (h : k.In path s.files)
    (hjobs : ∀ job ∈ jobs, job.InPlace path)
    (hrun : (runAll jobs).outcome s = (.ok (), s')) :
    (jobs.foldl after k).In path s'.files := by
  induction jobs generalizing k s with
  | nil =>
      cases hrun
      exact h
  | cons job rest ih =>
      obtain ⟨_, between, hfirst, hrest⟩ := Session.bind_eq_ok.mp hrun
      have hjob : job.InPlace path := hjobs job List.mem_cons_self
      exact ih (h.run hjob hfirst) (fun other hother => hjobs other (List.mem_cons_of_mem _ hother))
        hrest

end Run

/-! ### What is kept after all runs -/

/-- The image ends with the blob that was embedded last, if one was. -/
theorem image_foldl (k : Kept) (jobs : List Job) :
    match (jobs.filter Job.embeds).getLast? with
    | none => (jobs.foldl after k).image = k.image
    | some job => ∃ image, (jobs.foldl after k).image = Trailer.append image job.blob := by
  induction jobs using List.reverseRecOn with
  | nil => rfl
  | append_singleton jobs job ih =>
      rw [List.foldl_append, List.foldl_cons, List.foldl_nil, List.filter_append, after]
      by_cases hembeds : job.embeds = true
      · have hlast : (jobs.filter Job.embeds ++ [job].filter Job.embeds).getLast? = some job := by
          simp [hembeds]
        rw [hlast, if_pos hembeds]
        exact ⟨_, rfl⟩
      · simpa [hembeds] using ih

/-- Beside the image is the blob of the last job, if that did not embed it. -/
theorem beside_foldl (k : Kept) {jobs : List Job} {job : Job} (hlast : jobs.getLast? = some job)
    (hembeds : job.embeds = false) : (jobs.foldl after k).beside = some job.blob := by
  obtain ⟨front, rfl⟩ := List.getLast?_eq_some_iff.mp hlast
  rw [List.foldl_append, List.foldl_cons, List.foldl_nil, after, hembeds]
  rfl

end Kept

/-! ### Loading after runs -/

section Load

variable {k : Kept} {path : ModulePath} {jobs : List Job} {job : Job} {s : Surroundings}

theorem load_of_embedded (h : (jobs.foldl Kept.after k).In path s.files)
    (hlast : (jobs.filter Job.embeds).getLast? = some job) (hsize : job.atlas.Storable) :
    ((Store.load path).outcome s).1 = .ok (some job.atlas) := by
  have hkept := Kept.image_foldl k jobs
  rw [hlast] at hkept
  obtain ⟨image, himage⟩ := hkept
  obtain ⟨l, hholds⟩ := h.image
  rw [himage] at hholds
  have hblob := Store.imageBlob_append image (Blob.length_encode_le hsize)
  rw [Store.load_of_imageBlob hholds.read_eq (by rw [Job.blob, hblob])]
  exact Store.decoded_encode (Blob.decode_encode_version hsize.addressable 1)

theorem load_of_not_embedded (h : (jobs.foldl Kept.after k).In path s.files)
    (hnone : (jobs.filter Job.embeds).getLast? = none) (hlast : jobs.getLast? = some job)
    (hsize : job.atlas.Storable) :
    ((Store.load path).outcome s).1 =
      match (Store.imageBlob k.image).1 with
      | some blob => Store.decoded blob
      | none => .ok (some job.atlas) := by
  have hkept := Kept.image_foldl k jobs
  rw [hnone] at hkept
  obtain ⟨l, hholds⟩ := h.image
  rw [hkept] at hholds
  cases hblob : (Store.imageBlob k.image).1 with
  | some blob => exact Store.load_of_imageBlob hholds.read_eq hblob
  | none =>
      have hembeds : job.embeds = false := by
        have hnot := List.filter_eq_nil_iff.mp (List.getLast?_eq_none_iff.mp hnone) job
          (List.mem_of_getLast? hlast)
        exact Bool.eq_false_iff.mpr hnot
      obtain ⟨l', hbeside⟩ := h.beside job.blob (Kept.beside_foldl k hlast hembeds)
      rw [Store.load_of_sidecar hholds.read_eq hblob hbeside.read_eq]
      exact Store.decoded_encode (Blob.decode_encode_version hsize.addressable 1)

end Load

/--
After runs of one module in turn, the atlas of the last run that embedded is loaded. If no run did,
the blob that the image carried before them is decoded, and without one the atlas of the last run is
loaded.
-/
theorem load_of_runAll {path : ModulePath} {jobs : List Job} {job : Job} {s s' : Surroundings}
    (hmodule : s.files.isFile path.text = true) (hjobs : ∀ job ∈ jobs, job.InPlace path)
    (hlast : jobs.getLast? = some job) (hsize : ∀ job ∈ jobs, job.atlas.Storable)
    (hrun : (runAll jobs).outcome s = (.ok (), s')) :
    ∃ image, s.files.read path.text = .ok image ∧
      ((Store.load path).outcome s').1 =
        match (jobs.filter Job.embeds).getLast? with
        | some embedded => .ok (some embedded.atlas)
        | none =>
            match (Store.imageBlob image).1 with
            | some blob => Store.decoded blob
            | none => .ok (some job.atlas) := by
  obtain ⟨l, image, hholds⟩ := holdsAt_of_isFile hmodule
  have hstart : Kept.In ⟨image, none⟩ path s.files :=
    ⟨⟨l, hholds⟩, fun blob hblob => nomatch hblob⟩
  have hkept := hstart.runAll hjobs hrun
  refine ⟨image, hholds.read_eq, ?_⟩
  cases hembedded : (jobs.filter Job.embeds).getLast? with
  | some embedded =>
      have hmem : embedded ∈ jobs := List.mem_of_mem_filter (List.mem_of_getLast? hembedded)
      exact load_of_embedded hkept hembedded (hsize embedded hmem)
  | none =>
      exact load_of_not_embedded hkept hembedded hlast (hsize job (List.mem_of_getLast? hlast))

/-! ### Runs of both kinds -/

def sampleJob (placement : Placement) (name : String) : Job where
  build := ⟨⟨"app"⟩, ⟨placement, false, none⟩, .empty⟩
  feed := ⟨.ofItems [⟨⟨7⟩, name, ⟨16⟩, true⟩], .ofItems []⟩

theorem inPlace_sampleJob (placement : Placement) (name : String) :
    (sampleJob placement name).InPlace ⟨"app"⟩ :=
  ⟨rfl, rfl⟩

def sampleJobs : List Job :=
  [sampleJob .beside "old", sampleJob .image "new", sampleJob .beside "last"]

theorem load_of_runAll_sample :
    ∃ s', sampleFiles.isFile "app" = true ∧ (∀ job ∈ sampleJobs, job.InPlace ⟨"app"⟩) ∧
      sampleJobs.getLast? = some (sampleJob .beside "last") ∧
      (∀ job ∈ sampleJobs, job.atlas.Storable) ∧
      (runAll sampleJobs).outcome ⟨sampleFiles, []⟩ = (.ok (), s') ∧
      ((Store.load ⟨"app"⟩).outcome s').1 = .ok (some (sampleJob .image "new").atlas) := by
  have hmodule : sampleFiles.isFile (ModulePath.mk "app").text = true := by rfl
  have hjobs : ∀ job ∈ sampleJobs, job.InPlace ⟨"app"⟩ := by
    simp [sampleJobs, inPlace_sampleJob]
  have hlast : sampleJobs.getLast? = some (sampleJob .beside "last") := rfl
  have hsize : ∀ job ∈ sampleJobs, job.atlas.Storable := by
    simp only [sampleJobs, List.forall_mem_cons]
    unfold Atlas.Storable
    decide +kernel
  have hok : ((runAll sampleJobs).outcome ⟨sampleFiles, []⟩).1.isOk = true := by decide +kernel
  obtain ⟨_, s', hrun⟩ := exists_of_isOk hok
  obtain ⟨image, -, hload⟩ := load_of_runAll hmodule hjobs hlast hsize hrun
  exact ⟨s', hmodule, hjobs, hlast, hsize, hrun, hload⟩

/-- A run that stores its blob beside an image with an older one in it is not the one loaded. -/
theorem load_older_sample :
    ∃ s', (runAll [sampleJob .image "old", sampleJob .beside "new"]).outcome ⟨sampleFiles, []⟩ =
        (.ok (), s') ∧
      ((Store.load ⟨"app"⟩).outcome s').1 = .ok (some (sampleJob .image "old").atlas) ∧
      ((Store.load ⟨"app"⟩).outcome s').1 ≠ .ok (some (sampleJob .beside "new").atlas) := by
  have hstart : Kept.In ⟨[77, 90], none⟩ ⟨"app"⟩ sampleFiles :=
    ⟨⟨["w", "app"], by rfl, 0o755, by rfl⟩, fun blob hblob => nomatch hblob⟩
  have hjobs : ∀ job ∈ [sampleJob .image "old", sampleJob .beside "new"],
      job.InPlace ⟨"app"⟩ := by
    simp [inPlace_sampleJob]
  have hsize : (sampleJob .image "old").atlas.Storable := by
    unfold Atlas.Storable
    decide +kernel
  have hne : (sampleJob .image "old").atlas ≠ (sampleJob .beside "new").atlas := by
    decide +kernel
  have hok : ((runAll [sampleJob .image "old", sampleJob .beside "new"]).outcome
      ⟨sampleFiles, []⟩).1.isOk = true := by decide +kernel
  obtain ⟨_, s', hrun⟩ := exists_of_isOk hok
  have hload := load_of_embedded (hstart.runAll hjobs hrun) rfl hsize
  refine ⟨s', hrun, hload, ?_⟩
  rw [hload]
  intro heq
  exact hne (Option.some.inj (Except.ok.inj heq))

end CallSite.Build
