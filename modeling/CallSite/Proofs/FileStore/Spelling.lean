import CallSite.ModulePath
import CallSite.Proofs.FileStore.Walking
import CallSite.Proofs.Text.Split

/-!
# Spellings of a path

Where a path leads, if it leads anywhere, is said by its components and the working directory alone.
So paths with the same components are spellings of one location.
-/

namespace CallSite

/-- Where a component leads from a location. -/
def PathComponent.lead (l : Location) : PathComponent → Location
  | .root => []
  | .current => l
  | .parent => l.dropLast
  | .name text => l ++ [text]

theorem PathComponent.ofSegment?_eq (cs : List Char) :
    ofSegment? cs =
      if cs = [] ∨ cs = ['.'] then none
      else if cs = ['.', '.'] then some .parent
      else some (.name (String.ofList cs)) := by
  fun_cases ofSegment? cs <;> simp_all

/-- Only the first part of a path tells more than a component: whether the path begins at the
root. -/
theorem ModulePath.components_lead {p : ModulePath} {first : List Char} {rest : List (List Char)}
    (hsplit : p.segments = first :: rest) (hrest : first = [] → rest ≠ []) (here : Location) :
    p.components.foldl PathComponent.lead here =
      ((first :: rest).filterMap PathComponent.ofSegment?).foldl PathComponent.lead
        (if first = [] then [] else here) := by
  rw [components, hsplit]
  simp only []
  split
  · have hmore : rest.isEmpty = false := by simpa using hrest rfl
    rw [hmore]
    rfl
  · rfl
  · rename_i hempty _
    rw [if_neg hempty, List.filterMap_cons]
    cases PathComponent.ofSegment? first <;> rfl

namespace FileStore

variable {store : FileStore}

/-- A walk treats a part as the component that it stands for. -/
theorem enter_eq_lead {cs : List Char} {l next : Location}
    (h : store.enter l (String.ofList cs) = .ok next) :
    next = (PathComponent.ofSegment? cs).elim l (PathComponent.lead l) := by
  have hempty : String.ofList cs = "" ↔ cs = [] := @String.ofList_inj cs []
  have hdot : String.ofList cs = "." ↔ cs = ['.'] := @String.ofList_inj cs ['.']
  have hdots : String.ofList cs = ".." ↔ cs = ['.', '.'] := @String.ofList_inj cs ['.', '.']
  rw [enter_directory (node?_of_enter h), Except.ok.injEq] at h
  simp only [hempty, hdot, hdots] at h
  rw [← h, PathComponent.ofSegment?_eq]
  split
  · rfl
  · split <;> rfl

theorem walk_eq_lead {parts : List (List Char)} {l last : Location}
    (h : (parts.map String.ofList).foldlM store.enter l = .ok last) :
    last = (parts.filterMap PathComponent.ofSegment?).foldl PathComponent.lead l := by
  induction parts generalizing l with
  | nil =>
      cases h
      rfl
  | cons part rest ih =>
      rw [List.map_cons, List.foldlM_cons] at h
      obtain ⟨next, hnext, hrest⟩ := bind_eq_ok.mp h
      rw [ih hrest, enter_eq_lead hnext, List.filterMap_cons]
      cases PathComponent.ofSegment? part <;> rfl

/-- The first part of a path is empty where the path begins at the root. -/
theorem start_eq (store : FileStore) {p : ModulePath} {first : List Char} {rest : List (List Char)}
    (hne : p.text.toList ≠ []) (hsplit : p.segments = first :: rest) :
    store.start p.text = (if first = [] then [] else store.here) ∧ (first = [] → rest ≠ []) := by
  rw [ModulePath.segments] at hsplit
  rw [start]
  cases hcs : p.text.toList with
  | nil => exact absurd hcs hne
  | cons c cs =>
      rw [hcs] at hsplit
      obtain ⟨hfirst, hrest⟩ := Text.split_cons_eq hsplit
      exact ⟨by simp [hfirst], hrest⟩

theorem resolve_eq_lead {p : ModulePath} {l : Location} (h : store.resolve p.text = .ok l) :
    l = p.components.foldl PathComponent.lead store.here := by
  obtain ⟨parts, hparts, hwalk⟩ := bind_eq_ok.mp h
  obtain ⟨-, hne, rfl⟩ := segments_eq_ok.mp hparts
  cases hsplit : p.segments with
  | nil => exact absurd hsplit (Text.split_ne_nil _ _)
  | cons first rest =>
      obtain ⟨hstart, hrest⟩ := start_eq store hne hsplit
      rw [hstart, ← ModulePath.segments, hsplit] at hwalk
      rw [walk_eq_lead hwalk, ModulePath.components_lead hsplit hrest]

/-- Paths with the same components do not lead to different places. -/
theorem resolve_same {p q : ModulePath} {l l' : Location} (hsame : p.Same q)
    (hp : store.resolve p.text = .ok l) (hq : store.resolve q.text = .ok l') : l = l' := by
  rw [resolve_eq_lead hp, resolve_eq_lead hq, hsame]

end FileStore

end CallSite
