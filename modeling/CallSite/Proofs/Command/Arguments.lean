import CallSite.Proofs.Command.Spelling
import Mathlib.Data.List.Chain

/-!
# What a list of arguments asks for

A reader that follows the arguments keeps the request that those before it make up. Modes undo each
other, so the last of them counts; everything else is there once, and its place does not matter.
-/

namespace CallSite.Command

/-! ### One argument -/

namespace Request

/-- The request that an item is part of as well. -/
def after (q : Request) : Item → Request
  | .path text => { q with path := some text }
  | .mode m => { q with mode := some m }
  | .report => { q with report := true }
  | .output text => { q with output := some text }

/-- A mode may come if it is not the one in force, and all else if it is not there yet. -/
def Admits (q : Request) : Item → Prop
  | .path _ => q.path = none
  | .mode m => q.mode ≠ some m
  | .report => q.report = false
  | .output _ => q.output = none

end Request

namespace Reader

/-- A reader has understood a request, part of which may be pending. -/
structure Follows (r : Reader) (q : Request) : Prop where
  settle_eq : r.settle = .ok q
  hasPath_eq : r.hasPath = q.path.isSome

variable {r : Reader} {q : Request} {text : String}

theorem argument_title (r : Reader) (s : Switch) : r.argument s.title = r.switch s := by
  cases s with
  | mode m => cases m <;> rfl
  | report | help | version => rfl

theorem argument_of_not_dash (r : Reader) (h : text.toList.head? ≠ some '-') :
    r.argument text = r.word text := by
  rw [argument]
  split
  case h_1 cs hcs => exact absurd (by rw [hcs]; rfl) h
  case h_2 c cs hcs => exact absurd (by rw [hcs]; rfl) h
  case h_3 => rfl

theorem read_cons (r : Reader) (h : text ≠ "--") (rest : List String) :
    r.read (text :: rest) = (do read (← r.argument text) rest) := by
  rw [read, if_neg h]

theorem read_title (r : Reader) (s : Switch) (rest : List String) :
    r.read (s.title :: rest) = (do read (← r.switch s) rest) := by
  have htitle : s.title ≠ "--" := by
    cases s with
    | mode m => cases m <;> decide
    | report | help | version => decide
  rw [read_cons r htitle, argument_title]

theorem read_word (r : Reader) (h : text.toList.head? ≠ some '-') (rest : List String) :
    r.read (text :: rest) = (do read (← r.word text) rest) := by
  have htext : text ≠ "--" := by
    rintro rfl
    exact h rfl
  rw [read_cons r htext, argument_of_not_dash r h]

theorem Follows.switch_eq (hr : r.Follows q) (s : Switch) :
    r.switch s = (do pure ⟨← q.turn s, .nothing⟩) := by
  rw [switch, hr.settle_eq]
  rfl

/-- A path is pending until the next argument is understood. -/
theorem Follows.word_eq (hr : r.Follows q) (hpath : q.path = none) :
    r.word text = .ok ⟨q, .path text⟩ := by
  have hoperand : r.operand text = .ok ⟨q, .path text⟩ := by
    have hnone : r.hasPath = false := by rw [hr.hasPath_eq, hpath]; rfl
    simp [operand, hnone, hr.settle_eq]
  have hsettle := hr.settle_eq
  rw [settle] at hsettle
  rw [word]
  split
  case h_1 s hpending => simp [hpending] at hsettle
  case h_2 => exact hoperand

theorem Follows.read_wanting (hr : r.Follows q) (rest : List String) :
    r.read ("--out" :: rest) = read ⟨q, .wanting .output⟩ rest := by
  have hwanting : r.argument "--out" = .ok ⟨q, .wanting .output⟩ := by
    change (do pure (Reader.mk (← r.settle) (.wanting .output))) = _
    rw [hr.settle_eq]
    rfl
  rw [read_cons r (by decide), hwanting]
  rfl

theorem Follows.read_output (hr : r.Follows q) (hdash : text.toList.head? ≠ some '-')
    (rest : List String) :
    r.read ("--out" :: text :: rest) = read ⟨q, .value .output text⟩ rest := by
  rw [hr.read_wanting, read_word _ hdash]
  rfl

/-- An argument that is admitted becomes part of the request. -/
theorem Follows.step {item : Item} (hr : r.Follows q) (hmeans : Says text item)
    (hadmits : q.Admits item) :
    ∃ next : Reader, next.Follows (q.after item) ∧
      ∀ rest, r.read (modernized text ++ rest) = next.read rest := by
  cases item with
  | path path =>
    cases hmeans with
    | path hnonempty hdash holder =>
      refine ⟨⟨q, .path text⟩, ⟨?_, rfl⟩, fun rest => ?_⟩
      · simp [settle, Request.assignPath, Request.after, hnonempty]
      · rw [modernized_of_not_older holder, List.singleton_append, read_word r hdash,
          hr.word_eq hadmits]
        rfl
  | mode m =>
    refine ⟨⟨q.after (.mode m), .nothing⟩, ⟨rfl, rfl⟩, fun rest => ?_⟩
    rw [hmeans.modernized_mode, List.singleton_append, read_title, hr.switch_eq, Request.turn,
      if_neg hadmits]
    rfl
  | report =>
    refine ⟨⟨q.after .report, .nothing⟩, ⟨rfl, rfl⟩, fun rest => ?_⟩
    have hreport : ¬ q.report = true := by rw [hadmits]; decide
    rw [hmeans.modernized_report, List.singleton_append, read_title, hr.switch_eq, Request.turn,
      if_neg hreport]
    rfl
  | output path =>
    obtain ⟨houtput, hnonempty, hdash⟩ := says_output_iff.mp hmeans
    refine ⟨⟨q, .value .output path⟩, ⟨?_, rfl⟩, fun rest => ?_⟩
    · have hnone : q.has .output = false := by rw [Request.has, hadmits]; rfl
      simp [settle, Request.assign, hnone, hnonempty, Request.after]
    · rw [modernized_of_outputOf? houtput]
      exact hr.read_output hdash rest

/-- A mode does not follow itself. -/
theorem Follows.read_repeated {m : Mode} (hr : r.Follows q) (hmeans : Says text (.mode m))
    (hmode : q.mode = some m) (rest : List String) :
    r.read (modernized text ++ rest) = .error (.misuse (.repeated (Switch.mode m).title)) := by
  rw [hmeans.modernized_mode, List.singleton_append, read_title, hr.switch_eq, Request.turn,
    if_pos hmode]
  rfl

end Reader

/-! ### All arguments -/

namespace Request

/-- Of what may come once only, a request and the items after it have one together. -/
structure Spares (q : Request) (items : List Item) : Prop where
  path : (q.path.toList ++ items.filterMap Item.path?).length ≤ 1
  report : q.report.toNat + items.count .report ≤ 1
  output : (q.output.toList ++ items.filterMap Item.output?).length ≤ 1

variable {q : Request} {item : Item} {items : List Item}

theorem Spares.admits (h : q.Spares (item :: items))
    (hmode : ∀ m, item = .mode m → q.mode ≠ some m) : q.Admits item := by
  obtain ⟨hpath, hreport, houtput⟩ := h
  cases item with
  | path text =>
    cases hq : q.path with
    | none => exact hq
    | some other => simp [hq, Item.path?] at hpath
  | mode m => exact hmode m rfl
  | report =>
    cases hq : q.report with
    | false => exact hq
    | true =>
      rw [hq, List.count_cons_self, Bool.toNat_true] at hreport
      omega
  | output text =>
    cases hq : q.output with
    | none => exact hq
    | some other => simp [hq, Item.output?] at houtput

theorem Spares.after (h : q.Spares (item :: items)) (hadmits : q.Admits item) :
    (q.after item).Spares items := by
  obtain ⟨hpath, hreport, houtput⟩ := h
  cases item with
  | path text =>
    have hnone : q.path = none := hadmits
    rw [hnone] at hpath
    exact ⟨hpath, by simpa [Request.after] using hreport, houtput⟩
  | mode m => exact ⟨hpath, by simpa [Request.after] using hreport, houtput⟩
  | report =>
    have hnone : q.report = false := hadmits
    exact ⟨hpath, by simpa [hnone, Request.after, Nat.add_comm] using hreport, houtput⟩
  | output text =>
    have hnone : q.output = none := hadmits
    rw [hnone] at houtput
    exact ⟨hpath, by simpa [Request.after] using hreport, houtput⟩

/-- The mode in force and the modes to come. -/
def modes (q : Request) (items : List Item) : List Mode :=
  q.mode.toList ++ items.filterMap Item.mode?

theorem isChain_modes_after (hadmits : q.Admits item) :
    ((q.after item).modes items).IsChain (· ≠ ·) ↔ (q.modes (item :: items)).IsChain (· ≠ ·) := by
  cases item with
  | path | report | output => rfl
  | mode m =>
    have hne : q.mode ≠ some m := hadmits
    cases hq : q.mode with
    | none => simp [modes, hq, Request.after, Item.mode?]
    | some other =>
      have hother : other ≠ m := by simpa [hq] using hne
      simp [modes, hq, Request.after, Item.mode?, hother]

theorem not_isChain_modes {m : Mode} (hmode : q.mode = some m) :
    ¬ (q.modes (.mode m :: items)).IsChain (· ≠ ·) := by
  simp [modes, hmode, Item.mode?]

/-- What a request has in the end is what the last item with a say in it says. -/
theorem foldl_after {β : Type} (field : Request → Option β) (said? : Item → Option β)
    (hfield : ∀ q item, field (q.after item) = (said? item).or (field q)) (items : List Item)
    (q : Request) :
    field (items.foldl Request.after q) = (items.filterMap said?).getLast?.or (field q) := by
  induction items generalizing q with
  | nil => rfl
  | cons item items ih =>
    rw [List.foldl_cons, ih, hfield]
    cases hsaid : said? item with
    | none => simp [hsaid]
    | some said => simp [hsaid, List.getLast?_cons]

theorem report_foldl_after (items : List Item) (q : Request) :
    (items.foldl Request.after q).report = true ↔ q.report = true ∨ Item.report ∈ items := by
  induction items generalizing q with
  | nil => simp
  | cons item items ih =>
    rw [List.foldl_cons, ih, List.mem_cons]
    cases item <;> simp [Request.after]

/-- A request is made up of items, whatever their order. -/
structure Collects (q : Request) (items : List Item) : Prop where
  path_eq : q.path = (items.filterMap Item.path?).getLast?
  mode_eq : q.mode = (items.filterMap Item.mode?).getLast?
  report_iff : q.report = true ↔ Item.report ∈ items
  output_eq : q.output = (items.filterMap Item.output?).getLast?
  level_eq : q.level = none
  format_eq : q.format = none

theorem collects_foldl_after (items : List Item) :
    (items.foldl Request.after .empty).Collects items where
  path_eq := by
    rw [foldl_after Request.path Item.path? fun q item => by cases item <;> rfl]
    exact Option.or_none
  mode_eq := by
    rw [foldl_after Request.mode Item.mode? fun q item => by cases item <;> rfl]
    exact Option.or_none
  report_iff := by
    rw [report_foldl_after]
    simp [Request.empty]
  output_eq := by
    rw [foldl_after Request.output Item.output? fun q item => by cases item <;> rfl]
    exact Option.or_none
  level_eq := by
    rw [foldl_after Request.level (fun _ => none) fun q item => by cases item <;> rfl]
    simp [Request.empty]
  format_eq := by
    rw [foldl_after Request.format (fun _ => none) fun q item => by cases item <;> rfl]
    simp [Request.empty]

theorem placement_eq_beside_iff {q : Request} :
    q.plan.placement = .beside ↔ q.mode = some .file := by
  by_cases hfile : q.mode = some .file
  · simp [plan, hfile]
  · simp [plan, hfile]

end Request

theorem Reader.Follows.run {r : Reader} {q : Request} {arguments : List String} {items : List Item}
    (hr : r.Follows q) (hmeans : List.Forall₂ Says arguments items) (hspares : q.Spares items) :
    ((q.modes items).IsChain (· ≠ ·) →
        r.read (modernize arguments) = .ok (items.foldl Request.after q)) ∧
      (¬ (q.modes items).IsChain (· ≠ ·) →
        ∃ title, r.read (modernize arguments) = .error (.misuse (.repeated title))) := by
  induction hmeans generalizing r q with
  | nil =>
    have hmodes : (q.modes []).IsChain (· ≠ ·) := by
      cases hq : q.mode <;> simp [Request.modes, hq]
    exact ⟨fun _ => hr.settle_eq, fun hnot => absurd hmodes hnot⟩
  | @cons text item arguments items hmeans _ ih =>
    rw [modernize, List.flatMap_cons]
    -- an item that is not admitted can only be a mode once more, where the reading ends
    by_cases hmode : ∃ m, item = .mode m ∧ q.mode = some m
    · obtain ⟨m, rfl, hm⟩ := hmode
      exact ⟨fun hchain => absurd hchain (Request.not_isChain_modes hm),
        fun _ => ⟨_, hr.read_repeated hmeans hm _⟩⟩
    · have hadmits : q.Admits item :=
        hspares.admits fun m hitem hm => hmode ⟨m, hitem, hm⟩
      obtain ⟨next, hnext, hread⟩ := hr.step hmeans hadmits
      rw [hread, ← Request.isChain_modes_after hadmits]
      exact ih hnext (hspares.after hadmits)

/--
Arguments that name one path, one destination at most and ask for a report at most once are in
order just if no mode follows itself. Then the last mode counts, and everything else is as it was
said, in whatever order and spelling.
-/
theorem ofArguments_last_mode {arguments : List String} {items : List Item} {path : String}
    {output : Option String} (hmeans : List.Forall₂ Says arguments items)
    (hpath : items.filterMap Item.path? = [path])
    (houtput : items.filterMap Item.output? = output.toList)
    (hreport : items.count .report ≤ 1) :
    ((∃ title, Request.ofArguments arguments = .error (.misuse (.repeated title))) ↔
        ¬ (items.filterMap Item.mode?).IsChain (· ≠ ·)) ∧
      ((items.filterMap Item.mode?).IsChain (· ≠ ·) →
        ∃ request, Request.ofArguments arguments = .ok request ∧
          request.path = some path ∧
          (request.plan.placement = .beside ↔
            (items.filterMap Item.mode?).getLast? = some .file) ∧
          (request.plan.report = true ↔ Item.report ∈ items) ∧
          request.plan.output = output ∧
          request.level = none ∧ request.format = none) := by
  have hfollows : Reader.start.Follows .empty := ⟨rfl, rfl⟩
  have hspares : Request.empty.Spares items := by
    refine ⟨?_, ?_, ?_⟩
    · simp [Request.empty, hpath]
    · simpa [Request.empty] using hreport
    · cases output <;> simp [Request.empty, houtput]
  obtain ⟨hread, hrepeated⟩ := hfollows.run hmeans hspares
  change ((items.filterMap Item.mode?).IsChain (· ≠ ·) → Request.ofArguments arguments = _) at hread
  change (¬ (items.filterMap Item.mode?).IsChain (· ≠ ·) →
    ∃ title, Request.ofArguments arguments = _) at hrepeated
  have hcollected := Request.collects_foldl_after items
  refine ⟨⟨?_, hrepeated⟩, fun hchain => ⟨_, hread hchain, ?_, ?_, ?_, ?_, ?_, ?_⟩⟩
  · rintro ⟨title, herror⟩ hchain
    rw [hread hchain] at herror
    cases herror
  · rw [hcollected.path_eq, hpath]
    rfl
  · rw [← hcollected.mode_eq]
    exact Request.placement_eq_beside_iff
  · exact hcollected.report_iff
  · change (items.foldl Request.after .empty).output = output
    rw [hcollected.output_eq, houtput]
    cases output <;> rfl
  · exact hcollected.level_eq
  · exact hcollected.format_eq

def mixedArguments : List String :=
  ["--file", "/Report", "app", "/APIResource", "/oUt:\"\"b c\"", "--file"]

def repeatingArguments : List String :=
  ["/File", "app", "--file"]

theorem ofArguments_last_mode_mixed :
    (∃ request, Request.ofArguments mixedArguments = .ok request ∧ request.path = some "app" ∧
        request.plan.placement = .beside ∧ request.plan.report = true ∧
        request.plan.output = some "b c") ∧
      ∃ title, Request.ofArguments repeatingArguments = .error (.misuse (.repeated title)) := by
  have happ : Says "app" (.path "app") := by
    refine .path (by decide) (by decide) fun holder => ?_
    have hslash := holder.head?_eq
    simp at hslash
  have hreport : Says "/Report" .report := .olderReport (List.mem_singleton.mpr (toLower_eq rfl))
  have hresource : Says "/APIResource" (.mode .apiResource) :=
    .olderMode (List.mem_singleton.mpr (toLower_eq rfl))
  have hfile : Says "/File" (.mode .file) := .olderMode (List.mem_singleton.mpr (toLower_eq rfl))
  have houtput : Says "/oUt:\"\"b c\"" (.output "b c") := by
    have hquotes : "/oUt:\"\"b c\"" = "/oUt:" ++ quotes 2 ++ "b c" ++ quotes 1 := by decide
    rw [hquotes]
    exact .output (toLower_eq rfl) (by decide) (by decide) (by decide) (by decide)
  have hmixed : List.Forall₂ Says mixedArguments
      [.mode .file, .report, .path "app", .mode .apiResource, .output "b c", .mode .file] :=
    .cons (.mode .file) (.cons hreport (.cons happ (.cons hresource (.cons houtput
      (.cons (.mode .file) .nil)))))
  have hrepeating : List.Forall₂ Says repeatingArguments
      [.mode .file, .path "app", .mode .file] :=
    .cons hfile (.cons happ (.cons (.mode .file) .nil))
  constructor
  · have houtputs : [Item.mode .file, .report, .path "app", .mode .apiResource, .output "b c",
        .mode .file].filterMap Item.output? = (some "b c").toList := rfl
    obtain ⟨request, hok, hpath, hplacement, hreported, hout, -, -⟩ :=
      (ofArguments_last_mode hmixed rfl houtputs (by decide)).2 (by decide)
    exact ⟨request, hok, hpath, hplacement.mpr (by decide), hreported.mpr (by decide), hout⟩
  · have houtputs : [Item.mode .file, .path "app", .mode .file].filterMap Item.output? =
        none.toList := rfl
    exact (ofArguments_last_mode hrepeating rfl houtputs (by decide)).1.mpr (by decide)

end CallSite.Command
