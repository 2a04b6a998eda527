import CallSite.Command.Arguments
import Mathlib.Data.List.Basic

/-!
# What an argument says

An argument says the same in the spelling of today and in the older one, in any case of letters and
with any number of quotes around a destination.
-/

namespace CallSite.Command

/-- What an argument says. -/
inductive Item where
  | path (text : String)
  | mode (m : Mode)
  | report
  | output (text : String)
deriving DecidableEq

namespace Item

def path? : Item → Option String
  | .path text => some text
  | _ => none

def mode? : Item → Option Mode
  | .mode m => some m
  | _ => none

def output? : Item → Option String
  | .output text => some text
  | _ => none

end Item

/-- The older spellings of a switch, in small letters. -/
def Switch.older : Switch → List String
  | .report => ["/report"]
  | .mode .file => ["/file"]
  | .mode .resource => ["/resource"]
  | .mode .apiResource => ["/apiresource"]
  | .help => ["/?", "/h"]
  | .version => []

/-- Whether an argument is a switch or a destination in an older spelling. -/
def Older (argument : String) : Prop :=
  (∃ s : Switch, argument.toLower ∈ s.older) ∨ "/out:".toList <+: argument.toLower.toList

def quotes (n : Nat) : String :=
  String.ofList (List.replicate n '"')

/-- What arguments say, in each of the spellings. -/
inductive Says : String → Item → Prop where
  | path {text : String} (hnonempty : text ≠ "") (hdash : text.toList.head? ≠ some '-')
      (holder : ¬ Older text) : Says text (.path text)
  | mode (m : Mode) : Says (Switch.mode m).title (.mode m)
  | olderMode {text : String} {m : Mode} (holder : text.toLower ∈ (Switch.mode m).older) :
      Says text (.mode m)
  | report : Says Switch.report.title .report
  | olderReport {text : String} (holder : text.toLower ∈ Switch.report.older) : Says text .report
  /-- The quotes around a destination are not part of it. -/
  | output {start path : String} {before behind : Nat} (hstart : start.toLower = "/out:")
      (hnonempty : path ≠ "") (hdash : path.toList.head? ≠ some '-')
      (hhead : path.toList.head? ≠ some '"') (hlast : path.toList.getLast? ≠ some '"') :
      Says (start ++ quotes before ++ path ++ quotes behind) (.output path)

/-! ### Spellings -/

@[simp]
theorem toList_toLower (text : String) : text.toLower.toList = text.toList.map Char.toLower :=
  String.toList_map

theorem toLower_eq {text lower : String} (h : text.toList.map Char.toLower = lower.toList) :
    text.toLower = lower := by
  apply String.toList_inj.mp
  rw [toList_toLower, h]

@[simp]
theorem toList_quotes (n : Nat) : (quotes n).toList = List.replicate n '"' := by
  simp [quotes]

theorem modernized_of_mem_older {argument : String} {s : Switch}
    (h : argument.toLower ∈ s.older) : modernized argument = [s.title] := by
  cases s with
  | report => rw [modernized, List.mem_singleton.mp h]; rfl
  | mode m => cases m <;> (rw [modernized, List.mem_singleton.mp h]; rfl)
  | help =>
    obtain hfirst | hsecond := List.mem_pair.mp h
    · rw [modernized, hfirst]; rfl
    · rw [modernized, hsecond]; rfl
  | version => cases h

theorem modernized_of_not_older {argument : String} (h : ¬ Older argument) :
    modernized argument = [argument] := by
  rw [Older, not_or, not_exists] at h
  obtain ⟨hswitch, houtput⟩ := h
  rw [modernized]
  split
  case h_1 hlower => exact absurd (by rw [hlower]; decide) (hswitch .report)
  case h_2 hlower => exact absurd (by rw [hlower]; decide) (hswitch (.mode .file))
  case h_3 hlower => exact absurd (by rw [hlower]; decide) (hswitch (.mode .resource))
  case h_4 hlower => exact absurd (by rw [hlower]; decide) (hswitch (.mode .apiResource))
  case h_5 hlower => exact absurd (by rw [hlower]; decide) (hswitch .help)
  case h_6 hlower => exact absurd (by rw [hlower]; decide) (hswitch .help)
  case h_7 =>
    have hnone : outputOf? argument = none := by
      rw [outputOf?, if_neg]
      rwa [List.isPrefixOf_iff_prefix]
    rw [hnone]

theorem modernized_of_outputOf? {argument path : String} (h : outputOf? argument = some path) :
    modernized argument = ["--out", path] := by
  have hprefix : "/out:".toList.isPrefixOf argument.toLower.toList := by
    rw [outputOf?] at h
    split at h
    · assumption
    · cases h
  rw [modernized]
  split
  case h_7 => rw [h]
  all_goals
    rename_i hlower
    rw [hlower] at hprefix
    exact absurd hprefix (by decide)

theorem head?_older (s : Switch) : ∀ text ∈ s.older, text.toList.head? = some '/' := by
  cases s with
  | mode m => cases m <;> decide
  | report | help | version => decide

theorem Older.head?_eq {argument : String} (h : Older argument) :
    argument.toLower.toList.head? = some '/' := by
  obtain ⟨s, hs⟩ | ⟨rest, hrest⟩ := h
  · exact head?_older s _ hs
  · rw [← hrest]
    rfl

theorem not_older_of_dash {argument : String} (h : argument.toList.head? = some '-') :
    ¬ Older argument := by
  intro holder
  have hslash := holder.head?_eq
  simp [h] at hslash

theorem head?_title (s : Switch) : s.title.toList.head? = some '-' := by
  cases s with
  | mode m => cases m <;> rfl
  | report | help | version => rfl

theorem modernized_title (s : Switch) : modernized s.title = [s.title] := by
  apply modernized_of_not_older
  exact not_older_of_dash (head?_title s)

theorem Says.modernized_mode {text : String} {m : Mode} (h : Says text (.mode m)) :
    modernized text = [(Switch.mode m).title] := by
  cases h with
  | mode => exact modernized_title _
  | olderMode holder => exact modernized_of_mem_older holder

theorem Says.modernized_report {text : String} (h : Says text .report) :
    modernized text = [Switch.report.title] := by
  cases h with
  | report => exact modernized_title _
  | olderReport holder => exact modernized_of_mem_older holder

/-! ### Destinations -/

theorem dropWhile_quotes (n : Nat) {cs : List Char} (h : cs.head? ≠ some '"') :
    (List.replicate n '"' ++ cs).dropWhile (· = '"') = cs := by
  induction n with
  | zero =>
    cases cs with
    | nil => rfl
    | cons c cs =>
      have hc : c ≠ '"' := by simpa using h
      simp [hc]
  | succ n ih => simpa [List.replicate_succ] using ih

theorem exists_quotes_dropWhile (cs : List Char) :
    (cs.dropWhile (· = '"')).head? ≠ some '"' ∧
      ∃ n, cs = List.replicate n '"' ++ cs.dropWhile (· = '"') := by
  induction cs with
  | nil => exact ⟨by decide, 0, rfl⟩
  | cons c cs ih =>
    obtain ⟨hhead, n, hcs⟩ := ih
    by_cases hc : c = '"'
    · subst hc
      refine ⟨by simpa using hhead, n + 1, ?_⟩
      simpa [List.replicate_succ] using hcs
    · exact ⟨by simp [hc], 0, by simp [hc]⟩

theorem unquoted_quotes (before behind : Nat) {cs : List Char} (hnonempty : cs ≠ [])
    (hhead : cs.head? ≠ some '"') (hlast : cs.getLast? ≠ some '"') :
    unquoted (List.replicate before '"' ++ (cs ++ List.replicate behind '"')) = cs := by
  have hfront : (cs ++ List.replicate behind '"').head? ≠ some '"' := by
    rwa [List.head?_append_of_ne_nil _ hnonempty]
  have hback : cs.reverse.head? ≠ some '"' := by rwa [List.head?_reverse]
  rw [unquoted, dropWhile_quotes before hfront, List.reverse_append, List.reverse_replicate,
    dropWhile_quotes behind hback, List.reverse_reverse]

theorem exists_quotes_unquoted (cs : List Char) :
    (unquoted cs).head? ≠ some '"' ∧ (unquoted cs).getLast? ≠ some '"' ∧
      ∃ before behind,
        cs = List.replicate before '"' ++ (unquoted cs ++ List.replicate behind '"') := by
  obtain ⟨hfront, before, hbefore⟩ := exists_quotes_dropWhile cs
  obtain ⟨hback, behind, hbehind⟩ :=
    exists_quotes_dropWhile (cs.dropWhile (· = '"')).reverse
  have hrest : cs.dropWhile (· = '"') = unquoted cs ++ List.replicate behind '"' := by
    rw [List.reverse_eq_iff, List.reverse_append, List.reverse_replicate] at hbehind
    exact hbehind
  refine ⟨?_, ?_, before, behind, ?_⟩
  · intro hquote
    rw [hrest, List.head?_append, hquote] at hfront
    exact hfront rfl
  · rwa [unquoted, List.getLast?_reverse]
  · rw [← hrest]
    exact hbefore

theorem outputOf?_append {start : String} (hstart : start.toLower = "/out:") (rest : String) :
    outputOf? (start ++ rest) = some (String.ofList (unquoted rest.toList)) := by
  have hlower : start.toList.map Char.toLower = "/out:".toList := by rw [← toList_toLower, hstart]
  have hlength : start.toList.length = 5 := by
    rw [← List.length_map Char.toLower, hlower]
    rfl
  have hprefix : "/out:".toList.isPrefixOf (start ++ rest).toLower.toList := by
    rw [List.isPrefixOf_iff_prefix, toList_toLower, String.toList_append, List.map_append, hlower]
    exact List.prefix_append _ _
  rw [outputOf?, if_pos hprefix, String.toList_append, ← hlength, List.drop_left]

theorem exists_start_of_outputOf? {argument path : String} (h : outputOf? argument = some path) :
    ∃ start rest, argument = start ++ rest ∧ start.toLower = "/out:" := by
  rw [outputOf?] at h
  split at h
  case isFalse => cases h
  case isTrue hprefix =>
    refine ⟨String.ofList (argument.toList.take 5), String.ofList (argument.toList.drop 5), ?_, ?_⟩
    · rw [← String.ofList_append, List.take_append_drop, String.ofList_toList]
    · obtain ⟨rest, hrest⟩ := List.isPrefixOf_iff_prefix.mp hprefix
      apply toLower_eq
      rw [String.toList_ofList, List.map_take, ← toList_toLower, ← hrest]
      rfl

/-- Every destination in the older spelling is a text with quotes around it. -/
theorem says_output_iff {argument path : String} :
    Says argument (.output path) ↔
      outputOf? argument = some path ∧ path ≠ "" ∧ path.toList.head? ≠ some '-' := by
  constructor
  · intro hmeans
    cases hmeans with
    | @output start _ before behind hstart hnonempty hdash hhead hlast =>
      refine ⟨?_, hnonempty, hdash⟩
      have hcs : path.toList ≠ [] := by simpa using hnonempty
      rw [String.append_assoc, String.append_assoc, outputOf?_append hstart, String.toList_append,
        String.toList_append, toList_quotes, toList_quotes, unquoted_quotes _ _ hcs hhead hlast,
        String.ofList_toList]
  · rintro ⟨houtput, hnonempty, hdash⟩
    obtain ⟨start, rest, rfl, hstart⟩ := exists_start_of_outputOf? houtput
    rw [outputOf?_append hstart, Option.some.injEq] at houtput
    obtain ⟨hhead, hlast, before, behind, hquotes⟩ := exists_quotes_unquoted rest.toList
    have hcs : unquoted rest.toList = path.toList := by rw [← houtput, String.toList_ofList]
    rw [hcs] at hhead hlast hquotes
    have hrest : rest = quotes before ++ path ++ quotes behind := by
      apply String.toList_inj.mp
      simpa using hquotes
    rw [hrest, ← String.append_assoc, ← String.append_assoc]
    exact .output hstart hnonempty hdash hhead hlast

end CallSite.Command
