import CallSite.Proofs.Command.Arguments

/-!
# Two spellings of a destination

A destination may stand behind `--out` or in the argument itself, in the older spelling. Arguments
are put into the spelling of today one by one, whatever the one before, so a destination behind
`--out` that reads as an older switch is taken for that switch. Any other destination is the same in
both spellings.
-/

namespace CallSite.Command

/-! ### Older spellings, rewritten -/

/-- An argument in an older spelling becomes a switch, or a destination behind `--out`. -/
theorem Older.modernized_eq {argument : String} (h : Older argument) :
    (∃ s : Switch, modernized argument = [s.title]) ∨
      ∃ path, modernized argument = ["--out", path] := by
  obtain ⟨s, hs⟩ | hprefix := h
  · exact .inl ⟨s, modernized_of_mem_older hs⟩
  · refine .inr ⟨String.ofList (unquoted (argument.toList.drop 5)), modernized_of_outputOf? ?_⟩
    rw [outputOf?, if_pos (List.isPrefixOf_iff_prefix.mpr hprefix)]

/-- Just the arguments in an older spelling are changed. -/
theorem older_iff {argument : String} : Older argument ↔ modernized argument ≠ [argument] := by
  constructor
  · intro h heq
    obtain ⟨s, hs⟩ | ⟨path, hpath⟩ := h.modernized_eq
    · have htitle : argument = s.title := by
        rw [heq] at hs
        exact List.singleton_injective hs
      exact not_older_of_dash (htitle ▸ head?_title s) h
    · rw [heq] at hpath
      cases hpath
  · intro h
    by_contra holder
    exact h (modernized_of_not_older holder)

instance (argument : String) : Decidable (Older argument) :=
  decidable_of_iff' _ older_iff

/-- A setting that waits for its value gets none from an older spelling. -/
theorem Reader.read_wanting_modernized {argument : String} (h : Older argument) (q : Request)
    (s : Setting) (rest : List String) :
    Reader.read ⟨q, .wanting s⟩ (modernized argument ++ rest) =
      .error (.misuse (.noValue s.title)) := by
  obtain ⟨t, ht⟩ | ⟨path, hpath⟩ := h.modernized_eq
  · rw [ht, List.singleton_append, Reader.read_title]
    rfl
  · rw [hpath, List.cons_append, Reader.read_cons _ (by decide)]
    rfl

/-! ### A module and its destination -/

/-- The request for a module to be written to a destination, and for nothing else. -/
def Request.to (path destination : String) : Request :=
  { Request.empty with path := some path, output := some destination }

section Pair

variable {path destination : String} (hpath : Says path (.path path))
include hpath

theorem modernize_path (arguments : List String) :
    modernize (path :: arguments) = path :: modernize arguments := by
  cases hpath with
  | path _ _ holder =>
    rw [modernize, List.flatMap_cons, modernized_of_not_older holder]
    rfl

theorem ofArguments_output {argument : String} (hargument : Says argument (.output destination)) :
    Request.ofArguments [path, argument] = .ok (.to path destination) := by
  have hfollows : Reader.start.Follows .empty := ⟨rfl, rfl⟩
  have hmeans : List.Forall₂ Says [path, argument] [.path path, .output destination] :=
    .cons hpath (.cons hargument .nil)
  have hspares : Request.empty.Spares [.path path, .output destination] :=
    ⟨Nat.le_refl 1, Nat.zero_le 1, Nat.le_refl 1⟩
  exact (hfollows.run hmeans hspares).1 .nil

/-- A destination that is no older switch is rewritten to itself, so both spellings become the same
arguments. -/
theorem ofArguments_separate_of_not_older (h : ¬ Older destination) {argument : String}
    (hargument : Says argument (.output destination)) :
    Request.ofArguments [path, "--out", destination] = Request.ofArguments [path, argument] := by
  have hout : ¬ Older "--out" := not_older_of_dash rfl
  have hsame : modernize ["--out", destination] = modernize [argument] := by
    rw [modernize, modernize, List.flatMap_singleton, List.flatMap_cons, List.flatMap_singleton,
      modernized_of_not_older hout, modernized_of_not_older h,
      modernized_of_outputOf? (says_output_iff.mp hargument).1]
    rfl
  rw [Request.ofArguments, modernize_path hpath, hsame, ← modernize_path hpath, Request.ofArguments]

/-- A destination that is an older switch is rewritten to that switch, and `--out` has no value. -/
theorem ofArguments_separate_of_older (h : Older destination) :
    Request.ofArguments [path, "--out", destination] =
      .error (.misuse (.noValue Setting.output.title)) := by
  have hfollows : Reader.start.Follows .empty := ⟨rfl, rfl⟩
  obtain ⟨next, hnext, hread⟩ := hfollows.step hpath rfl
  have hout : modernized "--out" = ["--out"] := modernized_of_not_older (not_older_of_dash rfl)
  have hrest : modernize [path, "--out", destination] =
      modernized path ++ "--out" :: (modernized destination ++ []) := by
    simp [modernize, hout]
  rw [Request.ofArguments, parse, hrest, hread, hnext.read_wanting, Reader.read_wanting_modernized h]

end Pair

/--
A destination in the older spelling is the one that is written there. Behind `--out` it is the same
one just if it does not read as an older switch or destination itself, in any case of letters; if it
does, the arguments are refused because `--out` has no value.
-/
theorem ofArguments_spellings {path destination : String} (hpath : Says path (.path path))
    (hnonempty : destination ≠ "") (hdash : destination.toList.head? ≠ some '-')
    (hhead : destination.toList.head? ≠ some '"') (hlast : destination.toList.getLast? ≠ some '"') :
    (∃ request, Request.ofArguments [path, "/out:" ++ destination] = .ok request ∧
        request.path = some path ∧ request.plan = ⟨.image, false, some destination⟩ ∧
        request.level = none ∧ request.format = none) ∧
      (Request.ofArguments [path, "--out", destination] =
          Request.ofArguments [path, "/out:" ++ destination] ↔ ¬ Older destination) ∧
      (Older destination → Request.ofArguments [path, "--out", destination] =
        .error (.misuse (.noValue Setting.output.title))) := by
  have hargument : Says ("/out:" ++ destination) (.output destination) := by
    have hquotes : "/out:" ++ destination = "/out:" ++ quotes 0 ++ destination ++ quotes 0 := by
      simp [quotes]
    rw [hquotes]
    exact .output (toLower_eq rfl) hnonempty hdash hhead hlast
  have hjoined := ofArguments_output hpath hargument
  refine ⟨⟨_, hjoined, rfl, rfl, rfl, rfl⟩, ⟨fun hsame holder => ?_, fun holder => ?_⟩,
    ofArguments_separate_of_older hpath⟩
  · rw [hjoined, ofArguments_separate_of_older hpath holder] at hsame
    cases hsame
  · exact ofArguments_separate_of_not_older hpath holder hargument

theorem says_app : Says "app" (.path "app") :=
  .path (by decide) (by decide) (by decide +kernel)

/-- Of two absolute paths one is an older switch as well. -/
theorem ofArguments_spellings_absolute :
    (∃ request, Request.ofArguments ["app", "--out", "/srv/Out"] = .ok request ∧
        request.path = some "app" ∧ request.plan.output = some "/srv/Out") ∧
      (∃ request, Request.ofArguments ["app", "/out:/File"] = .ok request ∧
        request.path = some "app" ∧ request.plan.output = some "/File") ∧
      Request.ofArguments ["app", "--out", "/File"] =
        .error (.misuse (.noValue "--out <PATH>")) := by
  obtain ⟨⟨request, hjoined, hpath, hplan, -⟩, hsame, -⟩ :=
    ofArguments_spellings says_app (show "/srv/Out" ≠ "" by decide) (by decide) (by decide)
      (by decide)
  obtain ⟨⟨other, hother, hotherPath, hotherPlan, -⟩, -, hrefused⟩ :=
    ofArguments_spellings says_app (show "/File" ≠ "" by decide) (by decide) (by decide)
      (by decide)
  refine ⟨⟨request, ?_, hpath, by rw [hplan]⟩, ⟨other, hother, hotherPath, by rw [hotherPlan]⟩,
    hrefused (by decide +kernel)⟩
  rw [hsame.mpr (by decide +kernel)]
  exact hjoined

/-- There is a destination that only the older spelling can name. -/
theorem exists_destination_refused :
    ∃ path destination, Says path (.path path) ∧ destination ≠ "" ∧
      destination.toList.head? ≠ some '-' ∧ destination.toList.head? ≠ some '"' ∧
      destination.toList.getLast? ≠ some '"' ∧
      Request.ofArguments [path, "--out", destination] ≠
        Request.ofArguments [path, "/out:" ++ destination] := by
  refine ⟨"app", "/file", says_app, by decide, by decide, by decide, by decide, ?_⟩
  have hargument : Says ("/out:" ++ "/file") (.output "/file") :=
    says_output_iff.mpr ⟨by decide +kernel, by decide, by decide⟩
  rw [ofArguments_output says_app hargument, ofArguments_separate_of_older says_app (by decide +kernel)]
  exact fun hsame => nomatch hsame

end CallSite.Command
