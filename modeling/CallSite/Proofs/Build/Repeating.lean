import CallSite.Proofs.Build.Storing
import CallSite.Proofs.FileStore.Beside
import CallSite.Proofs.Trailer.Replacing

/-!
# Runs that are repeated

A run that comes right after itself finds what it found before, but for its own blob, which it puts
in the place of the same blob, and its own report. So it comes to the same and leaves the same
store, whether the first run failed or not and whichever of its files are one.
-/

namespace CallSite.Build

open FileStore Session

/-! ### What the report leaves -/

/-- In the later store a build finds the image, the places to write to and the access rights there
as they were. -/
structure Spares (b : Build) (store later : FileStore) : Prop where
  target : ∀ path l, store.target path = .ok l → later.target path = .ok l
  modeAt : ∀ l, later.modeAt l = store.modeAt l
  image : ∀ found, store.findFile b.path.text = .ok found → later.findFile b.path.text = .ok found

theorem spares_refl (b : Build) (store : FileStore) : b.Spares store store :=
  ⟨fun _ _ h => h, fun _ => rfl, fun _ h => h⟩

section Report

variable {b : Build} {store later : FileStore}

/-- The report is a file beside the image, and a file that is there keeps its access rights. -/
theorem spares_of_reported (h : b.reported store = .ok later) : b.Spares store later := by
  rw [reported] at h
  split at h
  · obtain ⟨place, hplace, rfl⟩ := write_eq_ok.mp h
    obtain ⟨hresolve, hplain⟩ := resolve_of_target hplace
    have hsets := sets_put hplain (Bytes.ofText (Report.render b.atlas)) (store.modeAt place)
    refine ⟨fun path l => hsets.target_iff.mpr, fun l => ?_, ?_⟩
    · by_cases hl : l = place
      · rw [hl, modeAt_of_node? hsets.node?_self]
      · rw [FileStore.modeAt, hsets.node?_of_ne hl, FileStore.modeAt]
    · rintro ⟨origin, image, mode⟩ hfound
      obtain ⟨horigin, hnode⟩ := findFile_eq_ok.mp hfound
      have hne : origin ≠ place :=
        resolve_extended_ne isExtension_report horigin place hresolve
      exact findFile_eq_ok.mpr
        ⟨hsets.resolve_iff.mpr horigin, (hsets.node?_of_ne hne).trans hnode⟩
  · cases h
    exact b.spares_refl store

/-- The report is written again over a store in which one node was put back. -/
theorem reported_again {place : Location} {node : Node} (h : b.reported store = .ok later)
    (hnode : store.node? place = some node) : b.reported (later.put place node) = .ok later := by
  by_cases hreport : b.plan.report = true
  · rw [reported, if_pos hreport] at h ⊢
    obtain ⟨l, hl, hlater⟩ := write_eq_ok.mp h
    by_cases hplace : place = l
    · -- The report is in the place of the node, so putting that back undoes the report.
      have hback : later.put place node = store := by
        rw [hlater, hplace, put_put, ← hplace, put_of_node? hnode]
      rw [hback]
      exact h
    · have hsets := sets_put (resolve_of_target hl).2
        (Bytes.ofText (Report.render b.atlas)) (store.modeAt l)
      rw [← hlater] at hsets
      have hback : later.put place node = later :=
        put_of_node? ((hsets.node?_of_ne hplace).trans hnode)
      rw [hback]
      refine write_eq_ok.mpr ⟨l, hsets.target_iff.mpr hl, ?_⟩
      rw [modeAt_of_node? hsets.node?_self, put_of_node? hsets.node?_self]
  · rw [reported_of_off (Bool.eq_false_iff.mpr hreport)] at h ⊢
    cases h
    rw [put_of_node? hnode]

end Report

/-! ### What the blob leaves -/

section Blob

variable {b : Build} {blob : Bytes} {files stored later : FileStore}
  (hsize : blob.length < UInt64.size) (hstored : b.stored blob files = .ok stored)
include hsize hstored

/-- Storing the same blob again puts the node that is there already. -/
theorem stored_again (hspares : b.Spares stored later) :
    ∃ place node, stored.node? place = some node ∧
      b.stored blob later = .ok (later.put place node) := by
  obtain ⟨place, content, mode, ⟨htarget, hholds⟩, rfl⟩ := stored_eq_ok.mp hstored
  have hsets := sets_put (resolve_of_target htarget).2 content mode
  refine ⟨place, .file content mode, hsets.node?_self,
    stored_eq_ok.mpr ⟨place, content, mode, ⟨?_, ?_⟩, rfl⟩⟩
  · exact hspares.target _ _ (hsets.target_iff.mpr htarget)
  · cases hplacement : b.plan.placement with
    | beside =>
        rw [hplacement] at hholds
        refine ⟨hholds.1, ?_⟩
        rw [hspares.modeAt, modeAt_of_node? hsets.node?_self]
    | image =>
        rw [hplacement] at hholds
        obtain ⟨origin, image, hfound, rfl⟩ := hholds
        obtain ⟨horigin, hnode⟩ := findFile_eq_ok.mp hfound
        have hresolve := hsets.resolve_iff.mpr horigin
        by_cases hplace : origin = place
        · have hagain := findFile_eq_ok.mpr ⟨hresolve, by rw [hplace]; exact hsets.node?_self⟩
          exact ⟨origin, _, hspares.image _ hagain, (Trailer.append_append image hsize).symm⟩
        · have hagain := findFile_eq_ok.mpr
            ⟨hresolve, (hsets.node?_of_ne hplace).trans hnode⟩
          exact ⟨origin, image, hspares.image _ hagain, rfl⟩

end Blob

/-! ### The run -/

theorem storeEffect_again {b : Build} (hsize : (Blob.encode b.atlas).bytes.length < UInt64.size)
    (files : FileStore) : b.storeEffect (b.storeEffect files).2 = b.storeEffect files := by
  rw [storeEffect.eq_1 b files]
  cases hstored : b.stored (Blob.encode b.atlas).bytes files with
  | error fault => simp only [storeEffect, hstored]
  | ok stored =>
      simp only []
      cases hreported : b.reported stored with
      | error fault =>
          obtain ⟨place, node, hnode, hagain⟩ := stored_again hsize hstored (b.spares_refl stored)
          rw [put_of_node? hnode] at hagain
          simp only [storeEffect, hagain, hreported]
      | ok later =>
          obtain ⟨place, node, hnode, hagain⟩ :=
            stored_again hsize hstored (spares_of_reported hreported)
          simp only [storeEffect, hagain, reported_again hreported hnode]

theorem runEffect_again {b : Build} {feed : Feed}
    (hsize : (Blob.encode (b.collect feed).1.atlas).bytes.length < UInt64.size)
    (files : FileStore) :
    (b.collect feed).1.runEffect feed (b.runEffect feed files).2 = b.runEffect feed files := by
  have hcollect : (b.collect feed).1.collect feed = b.collect feed := rfl
  simp only [runEffect, hcollect]
  cases (b.collect feed).2.fault with
  | some fault => rfl
  | none => exact storeEffect_again hsize files

/-- A run of a build right after the same run comes to the same, and leaves the build and the store
as they are. -/
theorem run_again (b : Build) (feed : Feed) (s : Surroundings)
    (hsize : (Blob.encode (b.collect feed).1.atlas).bytes.length < UInt64.size) :
    ((b.run feed).1.run feed).1 = (b.run feed).1 ∧
      ((b.run feed).1.run feed).2.effect ((b.run feed).2.outcome s).2 =
        (b.run feed).2.effect s := by
  refine ⟨rfl, ?_⟩
  have hfirst := effect_run b feed s
  have hfiles : ((b.run feed).2.outcome s).2.files = (b.runEffect feed s.files).2 :=
    congrArg Prod.snd hfirst
  rw [hfirst, effect_run, hfiles]
  exact runEffect_again hsize s.files

/-- The output has the name of the report, which takes its place in every run. -/
def overwritingBuild : Build :=
  ⟨⟨"app"⟩, ⟨.image, true, some "./app.linemapreport"⟩, .empty⟩

def overwritingFeed : Feed :=
  ⟨.ofItems [⟨⟨7⟩, "main", ⟨16⟩, true⟩], .ofItems []⟩

theorem run_again_overwritten :
    ∃ written s',
      (Blob.encode (overwritingBuild.collect overwritingFeed).1.atlas).bytes.length < UInt64.size ∧
      (overwritingBuild.run overwritingFeed).2.outcome ⟨sampleFiles, []⟩ = (.ok written, s') ∧
      (s'.files.read "app.linemapreport").isOk = true ∧
      ((overwritingBuild.run overwritingFeed).1.run overwritingFeed).2.effect s' =
        (.ok written, s'.files) := by
  have hsize : (Blob.encode (overwritingBuild.collect overwritingFeed).1.atlas).bytes.length <
      UInt64.size := by
    decide +kernel
  have hok : ((overwritingBuild.run overwritingFeed).2.outcome ⟨sampleFiles, []⟩).1.isOk =
      true := by
    decide +kernel
  have hreport : (((overwritingBuild.run overwritingFeed).2.outcome
      ⟨sampleFiles, []⟩).2.files.read "app.linemapreport").isOk = true := by
    decide +kernel
  obtain ⟨written, s', hrun⟩ := exists_of_isOk hok
  obtain ⟨-, hagain⟩ := run_again overwritingBuild overwritingFeed ⟨sampleFiles, []⟩ hsize
  rw [effect_eq hrun, hrun] at hagain
  rw [hrun] at hreport
  exact ⟨written, s', hsize, hrun, hreport, hagain⟩

end CallSite.Build
