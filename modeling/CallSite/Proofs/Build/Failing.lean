import CallSite.Build.Process
import CallSite.Proofs.Build.Running

/-!
# What a task leaves when it fails

A task that fails leaves the store as it was, with one exception: the report is written last, so a
report that is refused leaves just what the same task without a report leaves when it succeeds.
-/

namespace CallSite

open Session

/-- The same plan without a report. -/
def Plan.withoutReport (plan : Plan) : Plan :=
  { plan with report := false }

/-- A task on the module at a path that leaves either nothing or everything but the report, which is
then what was refused. -/
def AllOrNothing (path : String) (task : Plan → Session Fault ModulePath) : Prop :=
  ∀ plan s fault files, (task plan).effect s = (.error fault, files) →
    files = s.files ∨
      plan.report = true ∧
        (∃ refusal, fault = .file refusal ∧
          ∀ content, files.write (ModulePath.mk path).report.text content = .error refusal) ∧
        ∃ written, (task plan.withoutReport).effect s = (.ok written, files)

namespace Build

/-! ### Runs -/

def withoutReport (b : Build) : Build :=
  { b with plan := b.plan.withoutReport }

theorem reported_eq_error {b : Build} {files : FileStore} {fault : FileFault}
    (h : b.reported files = .error fault) :
    b.plan.report = true ∧
      ∀ content, files.write b.path.report.text content = .error fault := by
  rw [reported] at h
  split at h
  · rename_i hreport
    exact ⟨hreport, FileStore.write_eq_error h⟩
  · cases h

/-- Without a report, a run succeeds as soon as its blob is stored. -/
theorem runEffect_withoutReport {b : Build} {feed : Feed} {files stored : FileStore}
    (hfault : (b.collect feed).2.fault = none)
    (hstored : b.stored (Blob.encode (b.collect feed).1.atlas).bytes files = .ok stored) :
    b.withoutReport.runEffect feed files = (.ok b.destination, stored) := by
  have hfault' : (b.withoutReport.collect feed).2.fault = none := hfault
  have hstored' : (b.withoutReport.collect feed).1.stored
      (Blob.encode (b.withoutReport.collect feed).1.atlas).bytes files = .ok stored := hstored
  have hreported : (b.withoutReport.collect feed).1.reported stored = .ok stored :=
    reported_of_off rfl stored
  simp only [runEffect, hfault', storeEffect, hstored', hreported]
  rfl

theorem runEffect_eq_error {b : Build} {feed : Feed} {files later : FileStore} {fault : Fault}
    (h : b.runEffect feed files = (.error fault, later)) :
    later = files ∨
      b.plan.report = true ∧
        (∃ refusal, fault = .file refusal ∧
          ∀ content, later.write b.path.report.text content = .error refusal) ∧
        b.withoutReport.runEffect feed files = (.ok b.destination, later) := by
  rw [runEffect] at h
  cases hfault : (b.collect feed).2.fault with
  | some found =>
      simp only [hfault, Prod.mk.injEq] at h
      exact .inl h.2.symm
  | none =>
      simp only [hfault, storeEffect, stored_collect] at h
      cases hstored : b.stored (Blob.encode (b.collect feed).1.atlas).bytes files with
      | error found =>
          simp only [hstored, Prod.mk.injEq] at h
          exact .inl h.2.symm
      | ok stored =>
          simp only [hstored] at h
          cases hreported : (b.collect feed).1.reported stored with
          | ok last => simp [hreported] at h
          | error refusal =>
              simp only [hreported, Prod.mk.injEq, Except.error.injEq] at h
              obtain ⟨rfl, rfl⟩ := h
              obtain ⟨hreport, hrefused⟩ := reported_eq_error hreported
              exact .inr ⟨hreport, ⟨refusal, rfl, hrefused⟩, runEffect_withoutReport hfault hstored⟩

/-! ### Tasks -/

theorem new_withoutReport {files : FileStore} {path : String} {plan : Plan} {b : Build}
    (h : new files path plan = .ok b) :
    b.path.text = path ∧ b.plan = plan ∧ new files path plan.withoutReport = .ok b.withoutReport := by
  rw [new] at h ⊢
  split at h
  · cases h
  · rename_i hempty
    split at h
    · cases h
    · rename_i hdirectory
      split at h
      · rename_i hfile
        cases h
        rw [if_neg hempty, if_neg hdirectory, if_pos hfile]
        exact ⟨rfl, rfl, rfl⟩
      · cases h

/-- A new build of the module at a path, run on a feed. -/
def start (path : String) (feed : Feed) (plan : Plan) : Session Fault ModulePath := do
  match new (← files) path plan with
  | .error fault => throw fault
  | .ok b => (b.run feed).2

/-- What a run comes to when its feed is to be opened first. -/
def openedEffect (b : Build) (opened : FileStore → Except Fault Feed) (files : FileStore) :
    Except Fault ModulePath × FileStore :=
  match opened files with
  | .error fault => (.error fault, files)
  | .ok feed => b.runEffect feed files

/-- What a new build of the module at a path comes to. -/
def startEffect (opened : FileStore → Except Fault Feed) (path : String) (plan : Plan)
    (files : FileStore) : Except Fault ModulePath × FileStore :=
  match new files path plan with
  | .error fault => (.error fault, files)
  | .ok b => b.openedEffect opened files

theorem effect_start (path : String) (feed : Feed) (plan : Plan) (s : Surroundings) :
    (start path feed plan).effect s = startEffect (fun _ => .ok feed) path plan s.files := by
  rw [start, effect_files_bind, startEffect]
  cases new s.files path plan with
  | error fault => rfl
  | ok b => exact effect_run b feed s

end Build

/-- The image that a store has at a path. -/
def openedImage (path : String) (files : FileStore) : Except FeedFault Image := do
  let content ← (files.read path).mapError .file
  Image.ofBytes? path content

theorem effect_openImage (path : String) (s : Surroundings) :
    (openImage path).effect s = (openedImage path s.files, s.files) := by
  rw [openImage, effect, outcome_bind, outcome_mapFault, outcome_readFile, openedImage]
  cases s.files.read path with
  | error fault => rfl
  | ok content =>
      simp only [Except.mapError, bind, Except.bind]
      cases Image.ofBytes? path content <;> rfl

/-- The feed of the image at a path; an image that cannot be opened has no symbols to tell. -/
def imageFeed (path : String) (files : FileStore) : Except Fault Feed :=
  ((openedImage path files).mapError fun fault => .symbols fault.message).map Image.feed

theorem effect_process (path : String) (plan : Plan) (s : Surroundings) :
    (process path plan).effect s = Build.startEffect (imageFeed path) path plan s.files := by
  rw [process, effect_files_bind, Build.startEffect]
  cases Build.new s.files path plan with
  | error fault => rfl
  | ok b =>
      have hrun : ∀ (image : Image) (s : Surroundings),
          (b.run image.feed).2.effect s = b.runEffect image.feed s.files :=
        fun image s => Build.effect_run b image.feed s
      have hopen : ∀ s : Surroundings,
          ((openImage path).mapFault (fun fault => Fault.symbols fault.message) >>= fun image =>
            (b.run image.feed).2).effect s = b.openedEffect (imageFeed path) s.files := by
        intro s
        rw [effect_bind hrun, effect_mapFault, effect_openImage, Build.openedEffect, imageFeed]
        cases openedImage path s.files <;> rfl
      exact effect_tell_bind hopen _ s

/-! ### All or nothing -/

theorem allOrNothing_of_effect {path : String} {task : Plan → Session Fault ModulePath}
    {opened : FileStore → Except Fault Feed}
    (h : ∀ plan s, (task plan).effect s = Build.startEffect opened path plan s.files) :
    AllOrNothing path task := by
  intro plan s fault files hfailed
  rw [h, Build.startEffect] at hfailed
  cases hnew : Build.new s.files path plan with
  | error found =>
      simp only [hnew, Prod.mk.injEq] at hfailed
      exact .inl hfailed.2.symm
  | ok b =>
      cases hopened : opened s.files with
      | error found =>
          simp only [hnew, Build.openedEffect, hopened, Prod.mk.injEq] at hfailed
          exact .inl hfailed.2.symm
      | ok feed =>
          simp only [hnew, Build.openedEffect, hopened] at hfailed
          obtain ⟨hpath, rfl, hnew'⟩ := Build.new_withoutReport hnew
          rcases Build.runEffect_eq_error hfailed with hsame | ⟨hreport, hrefused, hwritten⟩
          · exact .inl hsame
          · rw [hpath.symm]
            refine .inr ⟨hreport, hrefused, b.destination, ?_⟩
            rw [h, Build.startEffect, hnew']
            simp only [Build.openedEffect, hopened]
            exact hwritten

/-- Building from the image of a module and building from any feed leave all or nothing. -/
theorem allOrNothing_process_start (path : String) :
    AllOrNothing path (process path) ∧ ∀ feed, AllOrNothing path (Build.start path feed) :=
  ⟨allOrNothing_of_effect (effect_process path),
    fun feed => allOrNothing_of_effect (Build.effect_start path feed)⟩

/-! ### A report that is refused -/

/-- A module whose report has the name of a directory. -/
def barredFiles : FileStore :=
  ⟨["w"], [([], .directory), (["w"], .directory), (["w", "app"], .file [77, 90] 0o755),
    (["w", "app.linemapreport"], .directory)]⟩

def barredPlan : Plan :=
  ⟨.image, true, some "out"⟩

def barredTask : Plan → Session Fault ModulePath :=
  Build.start "app" ⟨.ofItems [], .ofItems []⟩

/-- The output is there although the task fails, as it is without a report. -/
theorem allOrNothing_process_start_barred :
    ∃ files written, (barredTask barredPlan).effect ⟨barredFiles, []⟩ =
        (.error (.file .isDirectory), files) ∧
      (files.node? ["w", "out"]).isSome = true ∧
      (barredTask barredPlan.withoutReport).effect ⟨barredFiles, []⟩ = (.ok written, files) := by
  generalize hfiles : ((barredTask barredPlan).effect ⟨barredFiles, []⟩).2 = files
  have hfailed : (barredTask barredPlan).effect ⟨barredFiles, []⟩ =
      (.error (.file .isDirectory), files) :=
    Prod.ext rfl hfiles
  have hout : (files.node? ["w", "out"]).isSome = true := by
    rw [← hfiles]
    rfl
  rcases (allOrNothing_process_start "app").2 _ _ _ _ _ hfailed with hsame | ⟨-, -, hwritten⟩
  · rw [hsame] at hout
    cases hout
  · obtain ⟨written, hwritten⟩ := hwritten
    exact ⟨files, written, hfailed, hout, hwritten⟩

end CallSite
