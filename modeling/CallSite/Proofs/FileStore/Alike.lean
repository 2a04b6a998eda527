import CallSite.Proofs.FileStore.Beside
import CallSite.Proofs.FileStore.Spelling

/-!
# Paths that are walked alike

Paths with the same components are walked through the same directories. One thing more counts: a path
that ends in a separator or in a dot asks for a directory where it leads. Paths that agree in this too
lead to the same place or fail for the same reason, and so do the files beside them if no directory is
asked for.
-/

namespace CallSite

/-! ### What the components say -/

namespace PathComponent

/-- A part that stands for a component. -/
theorem ofSegment?_eq_some {cs : List Char} {c : PathComponent} :
    ofSegment? cs = some c ↔
      cs = ['.', '.'] ∧ c = .parent ∨
        (cs ≠ [] ∧ cs ≠ ['.'] ∧ cs ≠ ['.', '.']) ∧ c = .name (String.ofList cs) := by
  rw [ofSegment?_eq]
  by_cases hnone : cs = [] ∨ cs = ['.']
  · rcases hnone with rfl | rfl <;> simp
  · rw [if_neg hnone]
    obtain ⟨hempty, hdot⟩ := not_or.mp hnone
    by_cases hparent : cs = ['.', '.']
    · simp [hparent, @eq_comm _ c]
    · simp [hempty, hdot, hparent, @eq_comm _ c]

theorem ofSegment?_eq_none {cs : List Char} : ofSegment? cs = none ↔ cs = [] ∨ cs = ['.'] := by
  rw [ofSegment?_eq]
  by_cases hnone : cs = [] ∨ cs = ['.']
  · simp [hnone]
  · rw [if_neg hnone]
    refine iff_of_false ?_ hnone
    split <;> simp

theorem ofSegment?_inj {cs cs' : List Char} {c : PathComponent} (h : ofSegment? cs = some c)
    (h' : ofSegment? cs' = some c) : cs = cs' := by
  rcases ofSegment?_eq_some.mp h with ⟨rfl, rfl⟩ | ⟨-, rfl⟩
  · rcases ofSegment?_eq_some.mp h' with ⟨rfl, -⟩ | ⟨-, hc⟩
    · rfl
    · cases hc
  · rcases ofSegment?_eq_some.mp h' with ⟨-, hc⟩ | ⟨-, hc⟩
    · cases hc
    · exact String.ofList_inj.mp (PathComponent.name.inj hc)

/-- A component that says where a path begins. -/
def isMarker : PathComponent → Bool
  | .root | .current => true
  | _ => false

theorem isMarker_of_ofSegment? {cs : List Char} {c : PathComponent} (h : ofSegment? cs = some c) :
    c.isMarker = false := by
  rcases ofSegment?_eq_some.mp h with ⟨-, rfl⟩ | ⟨-, rfl⟩ <;> rfl

end PathComponent

namespace ModulePath

/-- The component that says where a path begins, if one does. -/
def marker : List (List Char) → List PathComponent
  | [] :: _ :: _ => [.root]
  | ['.'] :: _ => [.current]
  | _ => []

/-- The components that the parts of a path stand for, wherever it begins. -/
def steps (p : ModulePath) : List PathComponent :=
  p.segments.filterMap PathComponent.ofSegment?

/-- The last part of the path stands for no component. -/
def asksDirectory (p : ModulePath) : Bool :=
  p.segments.getLast?.any fun part => (PathComponent.ofSegment? part).isNone

/-- Paths of the same components of which both or neither ask for a directory. -/
structure Alike (a b : ModulePath) : Prop where
  same : a.Same b
  ending : a.asksDirectory = b.asksDirectory

theorem components_eq (p : ModulePath) : p.components = marker p.segments ++ p.steps := by
  rw [components, steps]
  cases hsegments : p.segments with
  | nil => exact absurd hsegments (Text.split_ne_nil _ _)
  | cons first rest =>
      simp only []
      split
      · cases rest <;> rfl
      · rfl
      · rename_i hempty hdot
        have hmarker : marker (first :: rest) = [] := by
          rw [marker]
          · exact fun _ _ h => hempty (List.cons.inj h).1
          · exact fun _ h => hdot (List.cons.inj h).1
        rw [hmarker, List.nil_append, List.filterMap_cons]
        cases PathComponent.ofSegment? first <;> rfl

theorem marker_cases (parts : List (List Char)) :
    marker parts = [] ∨ marker parts = [.root] ∨ marker parts = [.current] := by
  fun_cases marker parts <;> simp

theorem marker_eq_root {first : List Char} {rest : List (List Char)} :
    marker (first :: rest) = [.root] ↔ first = [] ∧ rest ≠ [] := by
  rw [marker.eq_def]
  split
  · rename_i h
    cases h
    simp
  · rename_i h
    cases h
    simp
  · rename_i hroot _
    refine iff_of_false nofun ?_
    rintro ⟨rfl, hrest⟩
    obtain ⟨part, parts, rfl⟩ := List.exists_cons_of_ne_nil hrest
    exact hroot part parts rfl

theorem steps_eq (p : ModulePath) : p.steps = p.components.filter fun c => !c.isMarker := by
  have hsteps : (p.steps.filter fun c => !c.isMarker) = p.steps := by
    refine List.filter_eq_self.mpr fun c hc => ?_
    obtain ⟨part, -, hpart⟩ := List.mem_filterMap.mp hc
    rw [PathComponent.isMarker_of_ofSegment? hpart]
    rfl
  rw [components_eq, List.filter_append, hsteps]
  rcases marker_cases p.segments with h | h | h <;> rw [h] <;> rfl

theorem marker_eq (p : ModulePath) : marker p.segments = p.components.filter PathComponent.isMarker := by
  have hsteps : p.steps.filter PathComponent.isMarker = [] := by
    refine List.filter_eq_nil_iff.mpr fun c hc => ?_
    obtain ⟨part, -, hpart⟩ := List.mem_filterMap.mp hc
    simp [PathComponent.isMarker_of_ofSegment? hpart]
  rw [components_eq, List.filter_append, hsteps, List.append_nil]
  rcases marker_cases p.segments with h | h | h <;> rw [h] <;> rfl

theorem Same.steps {a b : ModulePath} (h : a.Same b) : a.steps = b.steps := by
  rw [steps_eq, steps_eq, h]

theorem Same.marker {a b : ModulePath} (h : a.Same b) : marker a.segments = marker b.segments := by
  rw [marker_eq, marker_eq, h]

/-! ### What the text says -/

theorem components_eq_nil {p : ModulePath} : p.components = [] ↔ p.text.toList = [] := by
  rw [components_eq, List.append_eq_nil_iff, steps, segments]
  cases p.text.toList with
  | nil => simp [Text.split, marker, PathComponent.ofSegment?]
  | cons c cs =>
      cases hsplit : Text.split (· = '/') (c :: cs) with
      | nil => exact absurd hsplit (Text.split_ne_nil _ _)
      | cons first rest =>
          refine iff_of_false ?_ (List.cons_ne_nil c cs)
          rintro ⟨hmarker, hsteps⟩
          have hfirst := List.filterMap_eq_nil_iff.mp hsteps first List.mem_cons_self
          rcases PathComponent.ofSegment?_eq_none.mp hfirst with rfl | rfl
          · cases rest with
            | nil => exact (Text.split_cons_eq hsplit).2 rfl rfl
            | cons part rest => cases hmarker
          · cases hmarker

/-- A path without components asks for a directory like one that ends in a separator. -/
theorem asksDirectory_of_components_eq_nil {p : ModulePath} (h : p.components = []) :
    p.asksDirectory = true := by
  have hempty : p.text.toList = [] := components_eq_nil.mp h
  simp [asksDirectory, segments, hempty, Text.split, PathComponent.ofSegment?]

end ModulePath

namespace ModulePath

/-- A character of the text that is no separator and no dot is in a name. -/
theorem mem_text_iff {p : ModulePath} {c : Char} (hslash : c ≠ '/') (hdot : c ≠ '.') :
    c ∈ p.text.toList ↔ ∃ name, PathComponent.name name ∈ p.steps ∧ c ∈ name.toList := by
  have hparts : c ∈ p.text.toList ↔ ∃ part ∈ p.segments, c ∈ part :=
    Text.mem_split (decide_eq_false hslash) _
  rw [hparts]
  constructor
  · rintro ⟨part, hpart, hc⟩
    have hname : PathComponent.ofSegment? part = some (.name (String.ofList part)) := by
      refine PathComponent.ofSegment?_eq_some.mpr (.inr ⟨⟨?_, ?_, ?_⟩, rfl⟩)
      · rintro rfl
        cases hc
      · rintro rfl
        exact hdot (by simpa using hc)
      · rintro rfl
        exact hdot (by simpa using hc)
    exact ⟨_, List.mem_filterMap.mpr ⟨part, hpart, hname⟩, by simpa using hc⟩
  · rintro ⟨name, hname, hc⟩
    obtain ⟨part, hpart, hsome⟩ := List.mem_filterMap.mp hname
    rcases PathComponent.ofSegment?_eq_some.mp hsome with ⟨-, hparent⟩ | ⟨-, hpartName⟩
    · cases hparent
    · obtain rfl := PathComponent.name.inj hpartName
      exact ⟨part, hpart, by simpa using hc⟩

end ModulePath

namespace FileStore

variable {store : FileStore}

/-- A path begins at the root if its components do. -/
theorem start_eq_marker (store : FileStore) (p : ModulePath) :
    store.start p.text = if ModulePath.marker p.segments = [.root] then [] else store.here := by
  rw [start, ModulePath.segments]
  cases p.text.toList with
  | nil => rfl
  | cons c cs =>
      cases hsplit : Text.split (· = '/') (c :: cs) with
      | nil => exact absurd hsplit (Text.split_ne_nil _ _)
      | cons first rest =>
          obtain ⟨hfirst, hrest⟩ := Text.split_cons_eq hsplit
          have hroot : ModulePath.marker (first :: rest) = [.root] ↔ c = '/' := by
            rw [ModulePath.marker_eq_root, and_iff_left_of_imp hrest, hfirst, decide_eq_true_iff]
          simp [hroot]

/-! ### Walking component by component -/

/-- One component further from a location, which has to be a directory. -/
def follow (store : FileStore) (l : Location) (c : PathComponent) : Except FileFault Location := do
  let l ← store.enter l ""
  pure (c.lead l)

/-- The end of a walk, which has to be a directory if the path asks for one. -/
def settle (store : FileStore) (asks : Bool) (l : Location) : Except FileFault Location :=
  if asks then store.enter l "" else .ok l

theorem enter_error {l : Location} {segment : String} {fault : FileFault}
    (h : store.enter l segment = .error fault) (other : String) :
    store.enter l other = .error fault := by
  rw [enter] at h ⊢
  cases hnode : store.node? l with
  | none => simpa [hnode] using h
  | some node =>
      cases node with
      | file content mode => simpa [hnode] using h
      | directory =>
          rw [← enter, enter_directory hnode] at h
          cases h

theorem enter_empty {l l' : Location} (h : store.enter l "" = .ok l') : l' = l := by
  rw [enter_directory (node?_of_enter h)] at h
  exact (Except.ok.inj h).symm

/-- A walk treats a part as the component that it stands for, and fails in the same way. -/
theorem enter_ofList (l : Location) (cs : List Char) :
    store.enter l (String.ofList cs) =
      (PathComponent.ofSegment? cs).elim (store.enter l "") (store.follow l) := by
  cases hempty : store.enter l "" with
  | error fault =>
      rw [enter_error hempty]
      cases PathComponent.ofSegment? cs with
      | none => rfl
      | some c => simp [follow, hempty, bind, Except.bind]
  | ok l' =>
      obtain rfl := enter_empty hempty
      have hpart : store.enter l' (String.ofList cs) = .ok _ :=
        enter_directory (node?_of_enter hempty)
      rw [hpart, enter_eq_lead hpart]
      cases PathComponent.ofSegment? cs with
      | none => rfl
      | some c => simp [follow, hempty, bind, Except.bind, pure, Except.pure]

/-- To enter a directory before going on from it changes nothing. -/
theorem enter_bind_follow (l : Location) (c : PathComponent) :
    (store.enter l "" >>= fun l => store.follow l c) = store.follow l c := by
  cases hempty : store.enter l "" with
  | error fault => simp [follow, hempty, bind, Except.bind]
  | ok l' =>
      obtain rfl := enter_empty hempty
      rfl

theorem enter_bind_settle (l : Location) :
    (store.enter l "" >>= store.settle true) = store.enter l "" := by
  cases hempty : store.enter l "" with
  | error fault => rfl
  | ok l' =>
      obtain rfl := enter_empty hempty
      exact hempty

/-- A walk of all parts is one of the components, with a look at where it ends. -/
theorem walk_eq_follow {parts : List (List Char)} (hparts : parts ≠ []) (l : Location) :
    (parts.map String.ofList).foldlM store.enter l =
      (parts.filterMap PathComponent.ofSegment?).foldlM store.follow l >>=
        store.settle (parts.getLast?.any fun part => (PathComponent.ofSegment? part).isNone) := by
  induction parts generalizing l with
  | nil => exact absurd rfl hparts
  | cons part rest ih =>
      rw [List.map_cons, List.foldlM_cons, enter_ofList]
      cases rest with
      | nil =>
          cases hpart : PathComponent.ofSegment? part with
          | none => simp [hpart, settle]
          | some c =>
              have hsettle : store.settle false = pure := rfl
              simp [hpart, hsettle]
      | cons next rest =>
          simp only [ih (List.cons_ne_nil next rest), List.getLast?_cons_cons]
          cases hpart : PathComponent.ofSegment? part with
          | some c =>
              rw [List.filterMap_cons_some hpart, List.foldlM_cons, bind_assoc]
              rfl
          | none =>
              rw [List.filterMap_cons_none hpart, Option.elim_none]
              cases hsteps : (next :: rest).filterMap PathComponent.ofSegment? with
              | cons c steps =>
                  simp only [List.foldlM_cons, bind_assoc]
                  rw [← bind_assoc, enter_bind_follow]
              | nil =>
                  have hlast : ((next :: rest).getLast?.any fun part =>
                      (PathComponent.ofSegment? part).isNone) = true := by
                    rw [List.getLast?_eq_some_getLast (List.cons_ne_nil next rest), Option.any_some,
                      Option.isNone_iff_eq_none]
                    exact List.filterMap_eq_nil_iff.mp hsteps _ (List.getLast_mem _)
                  rw [hlast]
                  exact enter_bind_settle l

/-- Where a path leads, by its components and whether it asks for a directory. -/
theorem resolve_eq_follow (store : FileStore) (p : ModulePath) :
    store.resolve p.text =
      if Char.ofNat 0 ∈ p.text.toList then .error .malformedPath
      else if p.text.toList = [] then .error .missing
      else p.steps.foldlM store.follow (store.start p.text) >>= store.settle p.asksDirectory := by
  rw [resolve, segments]
  simp only [List.contains_iff_mem, List.isEmpty_iff]
  split
  · rfl
  · split
    · rfl
    · exact walk_eq_follow (Text.split_ne_nil _ _) _

/-- Paths that are alike lead to the same place or fail for the same reason. -/
theorem resolve_alike (store : FileStore) {a b : ModulePath} (h : a.Alike b) :
    store.resolve a.text = store.resolve b.text := by
  have hzero : Char.ofNat 0 ∈ a.text.toList ↔ Char.ofNat 0 ∈ b.text.toList := by
    rw [ModulePath.mem_text_iff (by decide) (by decide),
      ModulePath.mem_text_iff (by decide) (by decide), h.same.steps]
  have hempty : a.text.toList = [] ↔ b.text.toList = [] := by
    rw [← ModulePath.components_eq_nil, ← ModulePath.components_eq_nil, h.same]
  have hstart : store.start a.text = store.start b.text := by
    rw [start_eq_marker, start_eq_marker, h.same.marker]
  rw [resolve_eq_follow, resolve_eq_follow, h.same.steps, h.ending, hstart]
  simp only [hzero, hempty]

theorem read_alike (store : FileStore) {a b : ModulePath} (h : a.Alike b) :
    store.read a.text = store.read b.text := by
  simp only [read, findFile, find, resolve_alike store h]

end FileStore

/-! ### The files beside -/

namespace ModulePath

theorem asksDirectory_eq {p : ModulePath} {front : List (List Char)} {last : List Char}
    (h : p.segments = front ++ [last]) :
    p.asksDirectory = (PathComponent.ofSegment? last).isNone := by
  simp [asksDirectory, h]

theorem steps_append {p : ModulePath} {front : List (List Char)} {last : List Char}
    {c : PathComponent} (h : p.segments = front ++ [last])
    (hlast : PathComponent.ofSegment? last = some c) :
    p.steps = front.filterMap PathComponent.ofSegment? ++ [c] := by
  simp [steps, h, hlast]

/-- The parts after the first do not say where a path begins, if there are any. -/
theorem marker_cons_cons {first part part' : List Char} {rest rest' : List (List Char)} :
    marker (first :: part :: rest) = marker (first :: part' :: rest') := by
  rw [marker.eq_def, marker.eq_def]
  split <;> split <;> simp_all

/-- Only a last part that stands for no component says where a path begins. -/
theorem marker_append {front : List (List Char)} {last other : List Char} {c d : PathComponent}
    (hlast : PathComponent.ofSegment? last = some c)
    (hother : PathComponent.ofSegment? other = some d) :
    marker (front ++ [last]) = marker (front ++ [other]) := by
  have hnone : ∀ {part : List Char} {e : PathComponent}, PathComponent.ofSegment? part = some e →
      marker [part] = [] := by
    intro part e hpart
    rw [marker]
    · rintro _ _ h
      cases h
    · rintro _ h
      cases h
      cases hpart
  cases front with
  | nil => rw [List.nil_append, List.nil_append, hnone hlast, hnone hother]
  | cons first rest => cases rest <;> exact marker_cons_cons

end ModulePath

section Beside

variable {extension : String} (hextension : IsExtension extension)
include hextension

theorem IsExtension.ofSegment? (last : List Char) :
    PathComponent.ofSegment? (last ++ '.' :: extension.toList) =
      some (.name (String.ofList (last ++ '.' :: extension.toList))) := by
  obtain ⟨c, hc, hdot⟩ := hextension.proper
  have hmem : c ∈ last ++ '.' :: extension.toList := by simp [hc]
  refine PathComponent.ofSegment?_eq_some.mpr (.inr ⟨⟨?_, ?_, ?_⟩, rfl⟩)
  · intro heq
    simp [heq] at hmem
  · intro heq
    simp [heq, hdot] at hmem
  · intro heq
    simp [heq, hdot] at hmem

namespace ModulePath

/-- Paths that ask for no directory and are alike have files beside them that are alike. -/
theorem Alike.extended {a b : ModulePath} (h : a.Alike b) (hasks : a.asksDirectory = false) :
    (a.extended extension).Alike (b.extended extension) := by
  obtain ⟨front, last, ha, ha'⟩ := a.segments_extended hextension
  obtain ⟨front', last', hb, hb'⟩ := b.segments_extended hextension
  have hbasks : b.asksDirectory = false := h.ending ▸ hasks
  rw [asksDirectory_eq ha, Option.isNone_eq_false_iff, Option.isSome_iff_exists] at hasks
  rw [asksDirectory_eq hb, Option.isNone_eq_false_iff, Option.isSome_iff_exists] at hbasks
  obtain ⟨c, hc⟩ := hasks
  obtain ⟨c', hc'⟩ := hbasks
  have hsteps := h.same.steps
  rw [steps_append ha hc, steps_append hb hc'] at hsteps
  obtain ⟨hfront, hcc⟩ := List.append_inj' hsteps rfl
  obtain rfl : c = c' := (List.cons.inj hcc).1
  obtain rfl : last = last' := PathComponent.ofSegment?_inj hc hc'
  have hname := hextension.ofSegment? last
  have hmarker := h.same.marker
  rw [ha, hb, marker_append hc hname, ← ha', marker_append hc hname, ← hb'] at hmarker
  refine ⟨?_, ?_⟩
  · rw [Same, components_eq, components_eq, hmarker, steps_append ha' hname,
      steps_append hb' hname, hfront]
  · rw [asksDirectory_eq ha', asksDirectory_eq hb']

end ModulePath

end Beside

namespace FileStore

variable {store : FileStore} {p : ModulePath}

/-- What keeps a path from being walked keeps the files beside it from being reached. -/
theorem resolve_extended_error {extension : String} {fault : FileFault}
    (hextension : IsExtension extension) (hne : p.text.toList ≠ [])
    (h : store.resolve p.text = .error fault) :
    store.resolve (p.extended extension).text = .error fault := by
  by_cases hzero : Char.ofNat 0 ∈ p.text.toList
  · have hzero' := (p.zero_mem_extended hextension).mpr hzero
    rw [resolve_eq_follow, if_pos hzero] at h
    rw [resolve_eq_follow, if_pos hzero', h]
  · have hparts := segments_eq_ok.mpr ⟨hzero, hne, rfl⟩
    obtain ⟨front, last, hsplit, hsegments⟩ := segments_extended hextension hparts
    have hresolve : store.resolve p.text =
        (front ++ [last]).foldlM store.enter (store.start p.text) := by
      rw [resolve, hparts, hsplit]
      rfl
    have hbeside : store.resolve (p.extended extension).text =
        (front ++ [last ++ "." ++ extension]).foldlM store.enter (store.start p.text) := by
      rw [resolve, hsegments, start_extended store hparts]
      rfl
    rw [hresolve, List.foldlM_append, bind_eq_error] at h
    rw [hbeside, List.foldlM_append, bind_eq_error]
    rcases h with hfront | ⟨l, hfront, hlast⟩
    · exact .inl hfront
    · rw [List.foldlM_cons, bind_eq_error] at hlast
      rcases hlast with hlast | ⟨next, -, hnil⟩
      · refine .inr ⟨l, hfront, ?_⟩
        rw [List.foldlM_cons]
        exact bind_eq_error.mpr (.inl (enter_error hlast _))
      · cases hnil

/-- Where a path leads that asks for a directory, there is one. -/
theorem node?_of_asksDirectory {l : Location} (hasks : p.asksDirectory = true)
    (h : store.resolve p.text = .ok l) : store.node? l = some .directory := by
  rw [resolve_eq_follow] at h
  split at h
  · cases h
  · split at h
    · cases h
    · obtain ⟨last, -, hend⟩ := bind_eq_ok.mp h
      rw [hasks] at hend
      obtain rfl : l = last := enter_empty hend
      exact node?_of_enter hend

section Directory

variable (hasks : p.asksDirectory = true)
include hasks

/-- No file is read by a path that asks for a directory. -/
theorem read_of_asksDirectory (content : Bytes) : store.read p.text ≠ .ok content := by
  intro h
  obtain ⟨l, mode, hfile⟩ := read_eq_ok.mp h
  obtain ⟨hl, hnode⟩ := findFile_eq_ok.mp hfile
  rw [node?_of_asksDirectory hasks hl] at hnode
  cases hnode

/-- If nothing is there, then there is nothing beside it either. -/
theorem read_extended_of_asksDirectory {extension : String} (hextension : IsExtension extension)
    (hne : p.text.toList ≠ []) (h : store.read p.text = .error .missing) :
    store.read (p.extended extension).text = .error .missing := by
  cases hresolve : store.resolve p.text with
  | error fault =>
      have hbeside := resolve_extended_error hextension hne hresolve
      have hread : ∀ {path : String}, store.resolve path = .error fault →
          store.read path = .error fault := by
        intro path hpath
        simp only [read, findFile, find, hpath, bind, Except.bind]
      rw [hread hbeside, ← hread hresolve, h]
  | ok l =>
      have hnode := node?_of_asksDirectory hasks hresolve
      have hfind := find_eq_ok.mpr ⟨hresolve, hnode⟩
      rw [read, findFile, hfind] at h
      cases h

end Directory

end FileStore

end CallSite
