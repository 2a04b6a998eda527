import CallSite.Build.Basic
import CallSite.Proofs.Store.Embedding

/-!
# What a run writes

What a run comes to, and the store that it leaves. Nothing is stored after a fault of the feed, the
blob is put where the plan says, and the report is written last. So a run that succeeds met no fault
while collecting, and leaves the store as these two steps make it.
-/

namespace CallSite.Build

open FileStore Session

/-- The store after the report, if there is one to write. -/
def reported (b : Build) (files : FileStore) : Except FileFault FileStore :=
  if b.plan.report then
    files.write b.path.report.text (Bytes.ofText (Report.render b.atlas))
  else .ok files

/-- The path of the file that a blob is put into. -/
def destination (b : Build) : ModulePath :=
  match b.plan.placement with
  | .beside => b.output.sidecar
  | .image => b.output

/-- The store after a blob is put where the plan says. -/
def stored (b : Build) (blob : Bytes) (files : FileStore) : Except FileFault FileStore :=
  match b.plan.placement with
  | .beside => files.write b.output.sidecar.text blob
  | .image => do
      let image ← files.read b.path.text
      let copied ← Store.copied files b.path b.output
      copied.write b.output.text (Trailer.append image blob)

theorem reported_of_off {b : Build} (h : b.plan.report = false) (files : FileStore) :
    b.reported files = .ok files := by
  simp [reported, h]

/-- What is read from the output after a blob is embedded. -/
theorem read_of_stored {b : Build} {blob : Bytes} {files later : FileStore}
    (hplacement : b.plan.placement = .image) (h : b.stored blob files = .ok later) :
    ∃ image, files.read b.path.text = .ok image ∧
      later.read b.output.text = .ok (Trailer.append image blob) := by
  rw [stored, hplacement] at h
  obtain ⟨image, himage, hcopy⟩ := bind_eq_ok.mp h
  obtain ⟨copied, -, hwrite⟩ := bind_eq_ok.mp hcopy
  exact ⟨image, himage, FileStore.read_write hwrite⟩

/-! ### From the sessions to the stores -/

theorem effect_storeBlob (b : Build) (blob : Bytes) (s : Surroundings) :
    (b.storeBlob blob).effect s = attempt (b.stored blob) b.destination s.files := by
  cases hplacement : b.plan.placement with
  | beside =>
      have hstored : b.stored blob = fun files => files.write b.output.sidecar.text blob := by
        funext files
        simp only [stored, hplacement]
      rw [storeBlob, hstored, destination, hplacement]
      exact Store.effect_writeSidecar b.output blob s
  | image =>
      have hstored : b.stored blob = Store.embedded b.path b.output blob := by
        funext files
        simp only [stored, hplacement]
        rfl
      rw [storeBlob, hstored, destination, hplacement]
      simp only [effect_bind_pure, Store.effect_embed, attempt]
      cases Store.embedded b.path b.output blob s.files <;> rfl

theorem effect_storeReport (b : Build) (s : Surroundings) :
    b.storeReport.effect s = attempt b.reported () s.files := by
  by_cases hreport : b.plan.report = true
  · have hreported : b.reported = fun files =>
        files.write b.path.report.text (Bytes.ofText (Report.render b.atlas)) := by
      funext files
      rw [reported, if_pos hreport]
    rw [storeReport, hreported, if_pos hreport]
    exact effect_tell_bind (fun s => effect_change _ s) _ s
  · rw [storeReport, if_neg hreport, attempt, reported, if_neg hreport]
    rfl

/-- What storing comes to: the blob is there before the report is written. -/
def storeEffect (b : Build) (files : FileStore) : Except Fault ModulePath × FileStore :=
  match b.stored (Blob.encode b.atlas).bytes files with
  | .error fault => (.error (.file fault), files)
  | .ok stored =>
      match b.reported stored with
      | .error fault => (.error (.file fault), stored)
      | .ok later => (.ok b.destination, later)

theorem effect_store (b : Build) (s : Surroundings) : b.store.effect s = b.storeEffect s.files := by
  have hreport : ∀ (written : ModulePath) (s : Surroundings),
      (b.storeReport.asFault >>= fun _ => pure written).effect s =
        attempt (fun files => (b.reported files).mapError Fault.file) written s.files := by
    intro written s
    rw [effect_bind_pure, asFault, effect_mapFault, effect_storeReport, attempt, attempt]
    cases b.reported s.files <;> rfl
  rw [store]
  refine effect_tell_bind (fun s => ?_) _ s
  refine effect_tell_bind (fun s => ?_) _ s
  rw [effect_bind hreport, asFault, effect_mapFault, effect_storeBlob, attempt, storeEffect]
  cases b.stored (Blob.encode b.atlas).bytes s.files with
  | error fault => rfl
  | ok stored =>
      simp only [Except.mapError, attempt]
      cases b.reported stored <;> rfl

/-- What a run comes to: nothing is stored after a fault of the feed. -/
def runEffect (b : Build) (feed : Feed) (files : FileStore) : Except Fault ModulePath × FileStore :=
  match (b.collect feed).2.fault with
  | some fault => (.error fault, files)
  | none => (b.collect feed).1.storeEffect files

theorem effect_report (collected : Collected) (s : Surroundings) :
    (report collected).effect s =
      (match collected.fault with
        | some fault => .error fault
        | none => .ok (), s.files) := by
  rw [report, effect, outcome_bind, outcome_tellAll]
  cases collected.fault <;> rfl

theorem effect_run (b : Build) (feed : Feed) (s : Surroundings) :
    (b.run feed).2.effect s = b.runEffect feed s.files := by
  have hrun : (b.run feed).2 = report (b.collect feed).2 >>= fun _ => (b.collect feed).1.store :=
    rfl
  rw [hrun, effect_bind fun _ => effect_store _, effect_report, runEffect]
  cases (b.collect feed).2.fault <;> rfl

/-- Collecting changes nothing of where a build stores its blob. -/
@[simp]
theorem stored_collect (b : Build) (feed : Feed) : (b.collect feed).1.stored = b.stored :=
  rfl

@[simp]
theorem destination_collect (b : Build) (feed : Feed) :
    (b.collect feed).1.destination = b.destination :=
  rfl

/-- A run that succeeds collected without a fault and stored what it collected. -/
theorem run_eq_ok {b : Build} {feed : Feed} {s s' : Surroundings} {written : ModulePath}
    (h : (b.run feed).2.outcome s = (.ok written, s')) :
    (b.collect feed).2.fault = none ∧
      ∃ files, b.stored (Blob.encode (b.collect feed).1.atlas).bytes s.files = .ok files ∧
        (b.collect feed).1.reported files = .ok s'.files ∧
        written = b.destination := by
  have heffect := effect_eq h
  rw [effect_run, runEffect] at heffect
  cases hfault : (b.collect feed).2.fault with
  | some fault => simp [hfault] at heffect
  | none =>
      simp only [hfault, storeEffect, stored_collect, destination_collect] at heffect
      cases hstored : b.stored (Blob.encode (b.collect feed).1.atlas).bytes s.files with
      | error fault => simp [hstored] at heffect
      | ok files =>
          simp only [hstored] at heffect
          cases hreported : (b.collect feed).1.reported files with
          | error fault => simp [hreported] at heffect
          | ok later =>
              simp only [hreported, Prod.mk.injEq, Except.ok.injEq] at heffect
              obtain ⟨rfl, rfl⟩ := heffect
              exact ⟨rfl, files, rfl, hreported, rfl⟩

/-- A working directory with an image in it. -/
def sampleFiles : FileStore :=
  ⟨["w"], [([], .directory), (["w"], .directory), (["w", "app"], .file [77, 90] 0o755)]⟩

end CallSite.Build
