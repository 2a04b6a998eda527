import CallSite.Proofs.Blob.RoundTrip
import CallSite.Proofs.Build.Storing

/-!
# What a run leaves alone

A run that succeeds sets the file whose path it gives, then its report if there is one, and touches
nothing else. In an image the blob comes after what the image held, and the access rights are those
of the image, however the output is spelled and whatever was there.
-/

namespace CallSite.Build

open FileStore Session

/-- What the file with the blob is to hold: the blob alone, or the image with the blob and with its
own access rights. -/
def Holds (b : Build) (blob : Bytes) (files : FileStore) (content : Bytes) (mode : Nat) : Prop :=
  match b.plan.placement with
  | .beside => content = blob
  | .image => ∃ origin image, files.findFile b.path.text = .ok (origin, image, mode) ∧
      content = Trailer.append image blob

/-- The place of the report, if there is one. -/
def ReportAt (b : Build) (files : FileStore) (l : Location) : Prop :=
  b.plan.report = true ∧ files.resolve b.path.report.text = .ok l

/-- The later store has the blob at the place that the path leads to, and is otherwise the same but
for the report. -/
structure Delivers (b : Build) (blob : Bytes) (files later : FileStore) (written : ModulePath)
    (place : Location) : Prop where
  written_eq : written.text =
    match b.plan.placement with
    | .image => b.output.text
    | .beside => b.output.text ++ ".lmp"
  resolve_eq : files.resolve written.text = .ok place
  here_eq : later.here = files.here
  node?_eq : ∀ l, l ≠ place → ¬ b.ReportAt files l → later.node? l = files.node? l
  holds : ¬ b.ReportAt files place →
    ∃ content mode, later.findFile written.text = .ok (place, content, mode) ∧
      b.Holds blob files content mode

/-! ### The blob -/

theorem destination_text (b : Build) : b.destination.text =
    match b.plan.placement with
    | .image => b.output.text
    | .beside => b.output.text ++ ".lmp" := by
  rw [destination]
  cases b.plan.placement with
  | image => rfl
  | beside => simp [ModulePath.sidecar, ModulePath.extended, String.append_assoc]

theorem sets_of_stored {b : Build} {blob : Bytes} {files later : FileStore}
    (h : b.stored blob files = .ok later) :
    ∃ place content mode, files.resolve b.destination.text = .ok place ∧
      b.Holds blob files content mode ∧ files.Sets later place content mode := by
  obtain ⟨place, content, mode, hsupplies, rfl⟩ := stored_eq_ok.mp h
  obtain ⟨hplace, hplain⟩ := resolve_of_target hsupplies.target
  refine ⟨place, content, mode, hplace, ?_, sets_put hplain content mode⟩
  have hholds := hsupplies.holds
  rw [Holds]
  cases hplacement : b.plan.placement with
  | beside =>
      rw [hplacement] at hholds
      exact hholds.1
  | image =>
      rw [hplacement] at hholds
      exact hholds

/-! ### The report -/

/-- Writing the report leaves every place alone that is not its own. -/
theorem node?_of_reported {b : Build} {files later : FileStore}
    (h : b.reported files = .ok later) :
    files.Keeps later ∧ ∀ l, ¬ b.ReportAt files l → later.node? l = files.node? l := by
  rw [reported] at h
  split at h
  · rename_i hreport
    obtain ⟨place, hplace, hsets⟩ := sets_of_write h
    refine ⟨hsets.keeps, ?_⟩
    intro l hl
    apply hsets.node?_of_ne
    rintro rfl
    exact hl ⟨hreport, hplace⟩
  · cases h
    exact ⟨⟨rfl, fun _ hl => hl⟩, fun _ _ => rfl⟩

/-! ### The run -/

theorem run_delivers {b : Build} {feed : Feed} {s s' : Surroundings} {written : ModulePath}
    (h : (b.run feed).2.outcome s = (.ok written, s')) :
    ∃ place,
      b.Delivers (Blob.encode (b.collect feed).1.atlas).bytes s.files s'.files written place := by
  obtain ⟨-, files, hstored, hreported, rfl⟩ := run_eq_ok h
  obtain ⟨place, content, mode, hplace, hholds, hsets⟩ := sets_of_stored hstored
  obtain ⟨hkeeps, hnode⟩ := node?_of_reported hreported
  have hreport : ∀ l, (b.collect feed).1.ReportAt files l ↔ b.ReportAt s.files l :=
    fun l => and_congr_right fun _ => hsets.resolve_iff
  refine ⟨place, destination_text b, hplace, hkeeps.here.trans hsets.here, ?_, ?_⟩
  · intro l hl hnot
    rw [hnode l (mt (hreport l).mp hnot), hsets.node?_of_ne hl]
  · intro hnot
    refine ⟨content, mode, findFile_eq_ok.mpr ⟨?_, ?_⟩, hholds⟩
    · exact hkeeps.resolve (hsets.resolve_iff.mpr hplace)
    · rw [hnode place (mt (hreport place).mp hnot), hsets.node?_self]

/-- The output is the module under another name, so it is copied onto itself first. -/
def spelledBuild : Build :=
  ⟨⟨"app"⟩, ⟨.image, true, some "./app"⟩, .empty⟩

theorem length_encode_empty : (Blob.encode .empty).bytes.length = 64 := by
  rw [Blob.encode, Blob.encodeBy, Cipher.length_encrypt]
  decide +kernel

/-- Behind the image of two bytes stand a blob that reads as nothing, its length, and the rest of the
footer. -/
theorem run_delivers_spelled :
    ∃ written s' blob, (spelledBuild.run ⟨.ofItems [], .ofItems []⟩).2.outcome ⟨sampleFiles, []⟩ =
        (.ok written, s') ∧
      written.text = "./app" ∧
      s'.files.findFile "./app" = .ok (["w", "app"], [77, 90] ++ blob ++
        [64, 0, 0, 0, 0, 0, 0, 0, 0, 0, 76, 77, 80, 0, 76, 77, 80, 68, 65, 84, 65, 0], 0o755) ∧
      blob.length = 64 ∧ Blob.decode blob = .ok .empty ∧
      s'.files.node? ["w", "app.lmp"] = none := by
  have hok : ((spelledBuild.run ⟨.ofItems [], .ofItems []⟩).2.outcome
      ⟨sampleFiles, []⟩).1.isOk = true := by
    decide +kernel
  obtain ⟨written, s', hrun⟩ := exists_of_isOk hok
  obtain ⟨place, hdelivers⟩ := run_delivers hrun
  have hwritten : written.text = "./app" := hdelivers.written_eq
  have hplace : place = ["w", "app"] := by
    have hresolve := hdelivers.resolve_eq
    rw [hwritten] at hresolve
    cases hresolve
    rfl
  subst hplace
  have hreport : ∀ l, spelledBuild.ReportAt sampleFiles l → l = ["w", "app.linemapreport"] := by
    rintro l ⟨-, hl⟩
    cases hl
    rfl
  obtain ⟨content, mode, hfound, origin, image, himage, hcontent⟩ :=
    hdelivers.holds fun h => by simpa using hreport _ h
  cases himage
  have hbytes : Trailer.append [77, 90] (Blob.encode .empty).bytes =
      [77, 90] ++ (Blob.encode .empty).bytes ++
        [64, 0, 0, 0, 0, 0, 0, 0, 0, 0, 76, 77, 80, 0, 76, 77, 80, 68, 65, 84, 65, 0] := by
    rw [Trailer.append, length_encode_empty]
    rfl
  have hdecode : Blob.decode (Blob.encode .empty).bytes = .ok .empty :=
    Blob.decode_encode_version Atlas.addressable_empty _
  have hatlas : (spelledBuild.collect ⟨.ofItems [], .ofItems []⟩).1.atlas = .empty := rfl
  rw [hwritten, hcontent, hatlas, hbytes] at hfound
  refine ⟨written, s', _, hrun, hwritten, hfound, length_encode_empty, hdecode, ?_⟩
  rw [hdelivers.node?_eq ["w", "app.lmp"] (by simp) fun h => by simpa using hreport _ h]
  rfl

end CallSite.Build
