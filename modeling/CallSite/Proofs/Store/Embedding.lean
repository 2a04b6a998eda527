import CallSite.Proofs.FileStore.Writing
import CallSite.Proofs.Session
import CallSite.Store.Basic

/-!
# What storing a blob writes

Embedding a blob and writing it beside a module each come to one file that is written, the output of
the one after a copy of the image was made there if it is another file. Neither leaves anything behind
when it fails, since what was copied to can be written to.
-/

namespace CallSite.Store

open FileStore Session

/-- The store in which the output of an image is written: another output is a copy first. -/
def copied (files : FileStore) (path output : ModulePath) : Except FileFault FileStore :=
  if path.Same output then .ok files else files.copy path.text output.text

/-- The store with a blob embedded in the image at a path and written to an output. -/
def embedded (path output : ModulePath) (blob : Bytes) (files : FileStore) :
    Except FileFault FileStore := do
  let image ← files.read path.text
  let copied ← copied files path output
  copied.write output.text (Trailer.append image blob)

/-- Embedding a blob is one attempt: no copy is left without the blob. -/
theorem effect_embed (path output : ModulePath) (blob : Bytes) (s : Surroundings) :
    (embed path output blob).effect s = attempt (embedded path output blob) () s.files := by
  have hwrite : ∀ image (s : Surroundings),
      (Session.change fun files => files.write output.text (Trailer.append image blob)).effect s =
        attempt (fun files => files.write output.text (Trailer.append image blob)) () s.files :=
    fun _ s => effect_change _ s
  rw [embed]
  refine effect_tell_bind (fun s => ?_) _ s
  by_cases hsame : path.Same output
  · simp only [hsame, decide_true, Bool.not_true, Bool.false_eq_true, if_false]
    rw [effect_bind hwrite, effect_readFile, attempt, embedded, copied, if_pos hsame]
    cases s.files.read path.text <;> rfl
  · have hcopy : ∀ image (s : Surroundings),
        (Session.change (fun files => files.copy path.text output.text) >>= fun _ =>
          Session.change fun files => files.write output.text (Trailer.append image blob)).effect s =
        attempt (fun files => files.copy path.text output.text >>= fun copied =>
          copied.write output.text (Trailer.append image blob)) () s.files := by
      intro image s
      rw [effect_bind fun _ => hwrite image, effect_change]
      refine attempt_bind () () ?_
      intro between fault hcopied hfault
      obtain ⟨written, hwritten⟩ := write_of_copy hcopied (Trailer.append image blob)
      rw [hwritten] at hfault
      cases hfault
    simp only [hsame, decide_false, Bool.not_false, if_true]
    rw [effect_bind hcopy, effect_readFile, attempt, embedded, copied, if_neg hsame]
    cases s.files.read path.text <;> rfl

theorem effect_writeSidecar (path : ModulePath) (blob : Bytes) (s : Surroundings) :
    (writeSidecar path blob).effect s =
      attempt (fun files => files.write path.sidecar.text blob) path.sidecar s.files := by
  rw [writeSidecar]
  refine effect_tell_bind (fun s => ?_) _ s
  rw [effect_bind_pure, effect_change, attempt, attempt]
  cases s.files.write path.sidecar.text blob <;> rfl

end CallSite.Store
