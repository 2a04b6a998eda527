import CallSite.Session
import Mathlib.Tactic.Basic

/-!
# Sessions step by step

What each step of a session comes to, and the surroundings that it leaves. A session of two steps
succeeds if the first does and the second does in what the first left. What a step tells matters to
no other step, so its effect, which is what it comes to and the store it leaves, is found from the
store alone.
-/

namespace CallSite.Session

variable {ε ε' α β : Type}

/-- What a session comes to in given surroundings, and what it makes of them. -/
def outcome (session : Session ε α) (s : Surroundings) : Except ε α × Surroundings :=
  session s

theorem outcome_bind (first : Session ε α) (next : α → Session ε β) (s : Surroundings) :
    (first >>= next).outcome s =
      match first.outcome s with
      | (.ok a, between) => (next a).outcome between
      | (.error fault, between) => (.error fault, between) := by
  have hbind : (first >>= next).outcome s =
      (match (first.outcome s).1 with
        | .ok a => next a
        | .error fault => throw fault).outcome (first.outcome s).2 :=
    rfl
  rw [hbind]
  cases first.outcome s with
  | mk result between => cases result <;> rfl

theorem outcome_tryCatch (session : Session ε α) (handle : ε → Session ε α) (s : Surroundings) :
    (tryCatch session handle).outcome s =
      match session.outcome s with
      | (.ok a, after) => (.ok a, after)
      | (.error fault, after) => (handle fault).outcome after := by
  have hcatch : (tryCatch session handle).outcome s =
      (match (session.outcome s).1 with
        | .ok a => pure a
        | .error fault => handle fault).outcome (session.outcome s).2 :=
    rfl
  rw [hcatch]
  cases session.outcome s with
  | mk result after => cases result <;> rfl

@[simp]
theorem outcome_pure (a : α) (s : Surroundings) : (pure a : Session ε α).outcome s = (.ok a, s) :=
  rfl

@[simp]
theorem outcome_throw (fault : ε) (s : Surroundings) :
    (throw fault : Session ε α).outcome s = (.error fault, s) :=
  rfl

@[simp]
theorem outcome_tell (event : Event) (s : Surroundings) :
    (tell event : Session ε Unit).outcome s = (.ok (), { s with told := event :: s.told }) :=
  rfl

@[simp]
theorem outcome_tellAll (events : List Event) (s : Surroundings) :
    (tellAll events : Session ε Unit).outcome s =
      (.ok (), { s with told := events.reverse ++ s.told }) :=
  rfl

@[simp]
theorem outcome_files (s : Surroundings) :
    (files : Session ε FileStore).outcome s = (.ok s.files, s) :=
  rfl

theorem bind_eq_ok {first : Session ε α} {next : α → Session ε β} {s s' : Surroundings} {b : β} :
    (first >>= next).outcome s = (.ok b, s') ↔
      ∃ a between, first.outcome s = (.ok a, between) ∧ (next a).outcome between = (.ok b, s') := by
  rw [outcome_bind]
  cases hfirst : first.outcome s with
  | mk result between =>
      cases result with
      | error fault => simp
      | ok a => simp [and_assoc]

theorem exists_of_isOk {session : Session ε α} {s : Surroundings}
    (h : (session.outcome s).1.isOk = true) : ∃ a s', session.outcome s = (.ok a, s') := by
  cases houtcome : session.outcome s with
  | mk result s' =>
      cases result with
      | error fault =>
          rw [houtcome] at h
          cases h
      | ok a => exact ⟨a, s', rfl⟩

theorem outcome_readFile (path : String) (s : Surroundings) :
    (readFile path).outcome s = (s.files.read path, s) := by
  rw [readFile, outcome_bind, outcome_files]
  cases h : s.files.read path <;> simp [h]

theorem outcome_mapFault (f : ε → ε') (session : Session ε α) (s : Surroundings) :
    (session.mapFault f).outcome s =
      match session.outcome s with
      | (.ok a, after) => (.ok a, after)
      | (.error fault, after) => (.error (f fault), after) :=
  rfl

/-! ### What a session leaves -/

/-- What a session comes to, and the store that it leaves. -/
def effect (session : Session ε α) (s : Surroundings) : Except ε α × FileStore :=
  ((session.outcome s).1, (session.outcome s).2.files)

/-- An attempt to change a store, which leaves it as it was if it fails. -/
def attempt (f : FileStore → Except ε FileStore) (a : α) (files : FileStore) :
    Except ε α × FileStore :=
  match f files with
  | .ok later => (.ok a, later)
  | .error fault => (.error fault, files)

/-- Two attempts in turn are one, if the second can only fail where the first changed nothing. -/
theorem attempt_bind {f g : FileStore → Except ε FileStore} {files : FileStore} (a : α) (b : β)
    (h : ∀ between fault, f files = .ok between → g between = .error fault → between = files) :
    (match attempt f a files with
      | (.ok _, between) => attempt g b between
      | (.error fault, after) => (.error fault, after)) =
      attempt (fun files => f files >>= g) b files := by
  cases hf : f files with
  | error fault => simp [attempt, hf, bind, Except.bind]
  | ok between =>
      cases hg : g between with
      | ok later => simp [attempt, hf, hg, bind, Except.bind]
      | error fault =>
          have hbetween : between = files := h between fault hf hg
          simp [attempt, hf, hbetween, bind, Except.bind]

theorem effect_eq {session : Session ε α} {s s' : Surroundings} {result : Except ε α}
    (h : session.outcome s = (result, s')) : session.effect s = (result, s'.files) := by
  rw [effect, h]

/-- The second step goes on with what the first left, if what it leaves depends on no more than the
store. -/
theorem effect_bind {first : Session ε α} {next : α → Session ε β}
    {later : α → FileStore → Except ε β × FileStore}
    (h : ∀ a s, (next a).effect s = later a s.files) (s : Surroundings) :
    (first >>= next).effect s =
      match first.effect s with
      | (.ok a, files) => later a files
      | (.error fault, files) => (.error fault, files) := by
  rw [effect, effect, outcome_bind]
  cases first.outcome s with
  | mk result between =>
      cases result with
      | ok a => exact h a between
      | error fault => rfl

theorem effect_bind_pure (first : Session ε α) (b : β) (s : Surroundings) :
    (first >>= fun _ => pure b).effect s =
      match first.effect s with
      | (.ok _, files) => (.ok b, files)
      | (.error fault, files) => (.error fault, files) := by
  rw [effect, effect, outcome_bind]
  cases first.outcome s with
  | mk result between => cases result <;> rfl

theorem effect_files_bind (next : FileStore → Session ε α) (s : Surroundings) :
    (files >>= next).effect s = (next s.files).effect s := by
  rw [effect, effect, outcome_bind, outcome_files]

/-- A step that only tells something leaves everything to the next one. -/
theorem effect_tell_bind {next : Session ε α} {later : FileStore → Except ε α × FileStore}
    (h : ∀ s, next.effect s = later s.files) (event : Event) (s : Surroundings) :
    (tell event >>= fun _ => next).effect s = later s.files :=
  effect_bind (fun _ => h) s

theorem effect_change (f : FileStore → Except FileFault FileStore) (s : Surroundings) :
    (change f).effect s = attempt f () s.files := by
  rw [effect, change, outcome_bind, outcome_files, attempt]
  cases hf : f s.files <;> simp only [hf] <;> rfl

theorem effect_readFile (path : String) (s : Surroundings) :
    (readFile path).effect s = (s.files.read path, s.files) := by
  rw [effect, outcome_readFile]

theorem effect_mapFault (f : ε → ε') (session : Session ε α) (s : Surroundings) :
    (session.mapFault f).effect s = ((session.effect s).1.mapError f, (session.effect s).2) := by
  rw [effect, effect, outcome_mapFault]
  cases session.outcome s with
  | mk result after => cases result <;> rfl

end CallSite.Session
