import CallSite.Proofs.Build.Running
import CallSite.Proofs.FileStore.Spelling

/-!
# Where a blob is put

Storing a blob puts one file where the destination leads: the blob alone, or the image with the blob
behind it and with the access rights of the image. The copy that is made first leaves no trace of its
own, whether the output is the image under another name or another file.
-/

namespace CallSite

open FileStore

namespace Store

section Embedded

variable {path output : ModulePath} {blob : Bytes} {files : FileStore}

theorem exists_of_embedded {later : FileStore} (h : embedded path output blob files = .ok later) :
    ∃ origin image mode l, files.findFile path.text = .ok (origin, image, mode) ∧
      files.target output.text = .ok l := by
  obtain ⟨image, himage, hcopy⟩ := bind_eq_ok.mp h
  obtain ⟨copied, hcopied, hwrite⟩ := bind_eq_ok.mp hcopy
  obtain ⟨origin, mode, hfound⟩ := read_eq_ok.mp himage
  obtain ⟨l, hl, -⟩ := write_eq_ok.mp hwrite
  rw [Store.copied] at hcopied
  split at hcopied
  · cases hcopied
    exact ⟨origin, image, mode, l, hfound, hl⟩
  · obtain ⟨_, _, _, place, -, hplace, -⟩ := copy_eq_ok.mp hcopied
    exact ⟨origin, image, mode, place, hfound, hplace⟩

/-- Embedding puts the image with the blob where the output leads. -/
theorem embedded_eq {origin l : Location} {image : Bytes} {mode : Nat}
    (hfound : files.findFile path.text = .ok (origin, image, mode))
    (htarget : files.target output.text = .ok l) :
    embedded path output blob files =
      .ok (files.put l (.file (Trailer.append image blob) mode)) := by
  have hread : files.read path.text = .ok image := read_eq_ok.mpr ⟨origin, mode, hfound⟩
  obtain ⟨horigin, hnode⟩ := findFile_eq_ok.mp hfound
  obtain ⟨hl, hplain⟩ := resolve_of_target htarget
  refine bind_eq_ok.mpr ⟨image, hread, ?_⟩
  by_cases hsame : path.Same output
  · -- The output is the image itself, so its access rights are those of the image.
    have hcopied : copied files path output = .ok files := if_pos hsame
    obtain rfl := resolve_same hsame horigin hl
    refine bind_eq_ok.mpr ⟨files, hcopied, write_eq_ok.mpr ⟨origin, htarget, ?_⟩⟩
    rw [modeAt_of_node? hnode]
  · generalize hcopy : files.put l (.file (if origin = l then [] else image) mode) = copy
    have hcopied : copied files path output = .ok copy := by
      rw [copied, if_neg hsame]
      exact copy_eq_ok.mpr ⟨origin, image, mode, l, hfound, htarget, hcopy.symm⟩
    have hsets : files.Sets copy l (if origin = l then [] else image) mode := by
      rw [← hcopy]
      exact sets_put hplain _ mode
    refine bind_eq_ok.mpr ⟨copy, hcopied,
      write_eq_ok.mpr ⟨l, hsets.target_iff.mpr htarget, ?_⟩⟩
    rw [modeAt_of_node? hsets.node?_self, ← hcopy, put_put]

end Embedded

end Store

namespace Build

/-- What a build puts where its destination leads. -/
structure Supplies (b : Build) (blob : Bytes) (files : FileStore) (place : Location)
    (content : Bytes) (mode : Nat) : Prop where
  target : files.target b.destination.text = .ok place
  holds :
    match b.plan.placement with
    | .beside => content = blob ∧ mode = files.modeAt place
    | .image => ∃ origin image, files.findFile b.path.text = .ok (origin, image, mode) ∧
        content = Trailer.append image blob

/-- Storing a blob is putting one file. -/
theorem stored_eq_ok {b : Build} {blob : Bytes} {files later : FileStore} :
    b.stored blob files = .ok later ↔
      ∃ place content mode, b.Supplies blob files place content mode ∧
        later = files.put place (.file content mode) := by
  rw [stored]
  cases hplacement : b.plan.placement with
  | beside =>
      have hdestination : b.destination = b.output.sidecar := by rw [destination, hplacement]
      simp only []
      rw [write_eq_ok]
      constructor
      · rintro ⟨place, htarget, hlater⟩
        refine ⟨place, blob, files.modeAt place, ⟨by rwa [hdestination], ?_⟩, hlater⟩
        rw [hplacement]
        exact ⟨rfl, rfl⟩
      · rintro ⟨place, content, mode, ⟨htarget, hholds⟩, hlater⟩
        rw [hdestination] at htarget
        rw [hplacement] at hholds
        obtain ⟨rfl, rfl⟩ := hholds
        exact ⟨place, htarget, hlater⟩
  | image =>
      have hdestination : b.destination = b.output := by rw [destination, hplacement]
      constructor
      · intro h
        obtain ⟨origin, image, mode, place, hfound, htarget⟩ := Store.exists_of_embedded h
        have hlater := h.symm.trans (Store.embedded_eq hfound htarget)
        refine ⟨place, _, mode, ⟨by rwa [hdestination], ?_⟩, Except.ok.inj hlater⟩
        rw [hplacement]
        exact ⟨origin, image, hfound, rfl⟩
      · rintro ⟨place, content, mode, ⟨htarget, hholds⟩, rfl⟩
        rw [hdestination] at htarget
        rw [hplacement] at hholds
        obtain ⟨origin, image, hfound, rfl⟩ := hholds
        exact Store.embedded_eq hfound htarget

end Build

end CallSite
