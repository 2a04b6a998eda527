import CallSite.FileStore.Basic
import CallSite.Proofs.Outcome
import Mathlib.Data.List.DropRight

/-!
# Walking a path

Where a path leads, what is read there, and where a file may be made or overwritten: a path that ends
in a name leads there, and no directory is there. Every path that could be walked leads to the same
location as long as no directory is gone.
-/

namespace CallSite.FileStore

/-! ### Parts -/

theorem segments_eq_ok {path : String} {parts : List String} :
    segments path = .ok parts ↔
      Char.ofNat 0 ∉ path.toList ∧ path.toList ≠ [] ∧
        (Text.split (· = '/') path.toList).map String.ofList = parts := by
  rw [segments]
  split
  · rename_i hzero
    simp [List.contains_iff_mem.mp hzero]
  · rename_i hzero
    rw [List.contains_iff_mem] at hzero
    split
    · rename_i hempty
      simp [List.isEmpty_iff.mp hempty]
    · rename_i hempty
      simp [hzero, List.isEmpty_iff.not.mp hempty]

/-! ### Walking -/

/-- Paths begin where they began, and no directory is gone. -/
structure Keeps (store later : FileStore) : Prop where
  here : later.here = store.here
  directory : ∀ l, store.node? l = some .directory → later.node? l = some .directory

theorem node?_of_enter {store : FileStore} {l next : Location} {segment : String}
    (h : store.enter l segment = .ok next) : store.node? l = some .directory := by
  cases hnode : store.node? l with
  | none => simp [enter, hnode] at h
  | some node =>
      cases node with
      | file content mode => simp [enter, hnode] at h
      | directory => rfl

theorem enter_directory {store : FileStore} {l : Location} {segment : String}
    (h : store.node? l = some .directory) :
    store.enter l segment =
      .ok (if segment = "" ∨ segment = "." then l
        else if segment = ".." then l.dropLast else l ++ [segment]) := by
  simp only [enter, h]
  split
  · rfl
  · split <;> rfl

section Keeps

variable {store later : FileStore} (h : store.Keeps later)
include h

theorem Keeps.enter {l next : Location} {segment : String}
    (hnext : store.enter l segment = .ok next) : later.enter l segment = .ok next := by
  have hnode : store.node? l = some .directory := node?_of_enter hnext
  rw [enter_directory hnode] at hnext
  rw [enter_directory (h.directory l hnode), hnext]

theorem Keeps.walk {parts : List String} {l last : Location}
    (hlast : parts.foldlM store.enter l = .ok last) : parts.foldlM later.enter l = .ok last := by
  induction parts generalizing l with
  | nil => exact hlast
  | cons part rest ih =>
      rw [List.foldlM_cons] at hlast ⊢
      obtain ⟨next, hnext, hrest⟩ := bind_eq_ok.mp hlast
      exact bind_eq_ok.mpr ⟨next, h.enter hnext, ih hrest⟩

theorem Keeps.start (path : String) : later.start path = store.start path := by
  simp only [FileStore.start, h.here]

theorem Keeps.resolve {path : String} {l : Location} (hl : store.resolve path = .ok l) :
    later.resolve path = .ok l := by
  obtain ⟨parts, hparts, hwalk⟩ := bind_eq_ok.mp hl
  rw [← h.start] at hwalk
  exact bind_eq_ok.mpr ⟨parts, hparts, h.walk hwalk⟩

end Keeps

/-! ### Reading -/

theorem find_eq_ok {store : FileStore} {path : String} {l : Location} {node : Node} :
    store.find path = .ok (l, node) ↔ store.resolve path = .ok l ∧ store.node? l = some node := by
  rw [find, bind_eq_ok]
  constructor
  · rintro ⟨location, hlocation, h⟩
    cases hnode : store.node? location with
    | none => simp [hnode, throw, throwThe, MonadExceptOf.throw] at h
    | some found =>
        simp only [hnode, pure, Except.pure, Except.ok.injEq, Prod.mk.injEq] at h
        obtain ⟨rfl, rfl⟩ := h
        exact ⟨hlocation, hnode⟩
  · rintro ⟨hl, hnode⟩
    refine ⟨l, hl, ?_⟩
    rw [hnode]
    rfl

theorem findFile_eq_ok {store : FileStore} {path : String} {l : Location} {content : Bytes}
    {mode : Nat} :
    store.findFile path = .ok (l, content, mode) ↔
      store.resolve path = .ok l ∧ store.node? l = some (.file content mode) := by
  rw [← find_eq_ok, findFile, bind_eq_ok]
  constructor
  · rintro ⟨⟨location, node⟩, hfind, h⟩
    cases node with
    | directory => cases h
    | file found foundMode =>
        cases h
        exact hfind
  · intro hfind
    exact ⟨_, hfind, rfl⟩

theorem read_eq_ok {store : FileStore} {path : String} {content : Bytes} :
    store.read path = .ok content ↔ ∃ l mode, store.findFile path = .ok (l, content, mode) := by
  rw [read, bind_eq_ok]
  constructor
  · rintro ⟨⟨l, found, mode⟩, hfound, h⟩
    cases h
    exact ⟨l, mode, hfound⟩
  · rintro ⟨l, mode, hfound⟩
    exact ⟨_, hfound, rfl⟩

/-- The path leads to the location, and the file there holds the content. -/
def HoldsAt (store : FileStore) (path : String) (l : Location) (content : Bytes) : Prop :=
  store.resolve path = .ok l ∧ ∃ mode, store.node? l = some (.file content mode)

theorem HoldsAt.read_eq {store : FileStore} {path : String} {l : Location} {content : Bytes}
    (h : store.HoldsAt path l content) : store.read path = .ok content := by
  obtain ⟨hl, mode, hnode⟩ := h
  rw [read, findFile_eq_ok.mpr ⟨hl, hnode⟩]
  rfl

theorem holdsAt_of_isFile {store : FileStore} {path : String} (h : store.isFile path = true) :
    ∃ l content, store.HoldsAt path l content := by
  rw [isFile] at h
  split at h
  · rename_i l content mode hfind
    obtain ⟨hl, hnode⟩ := find_eq_ok.mp hfind
    exact ⟨l, content, hl, mode, hnode⟩
  · cases h

/-! ### Targets -/

/-- The last part of a path is a name, and not one that stands for another directory. -/
def NamesFile (path : String) : Prop :=
  ∃ front last, segments path = .ok (front ++ [last]) ∧
    last ≠ "" ∧ ¬ (last = "." ∨ last = "..")

theorem eq_of_trimmed {parts named : List String}
    (hnamed : (parts.reverse.dropWhile (· = "")).reverse = named)
    (hlength : ¬ named.length < parts.length) : named = parts := by
  have hprefix : named <+: parts := by
    rw [← hnamed]
    exact List.rdropWhile_prefix _ _
  exact hprefix.eq_of_length_le (Nat.le_of_not_lt hlength)

theorem ne_empty_of_trimmed {parts named : List String} {last : String}
    (hnamed : (parts.reverse.dropWhile (· = "")).reverse = named)
    (hlast : named.getLast? = some last) : last ≠ "" := by
  subst hnamed
  have hne : List.rdropWhile (· = "") parts ≠ [] := by
    intro hnil
    rw [List.rdropWhile] at hnil
    simp [hnil] at hlast
  have hnot := List.rdropWhile_last_not (fun part => decide (part = "")) parts hne
  rw [List.getLast?_eq_some_getLast (by simpa [List.rdropWhile] using hne)] at hlast
  cases hlast
  simpa [List.rdropWhile] using hnot

theorem namesFile_of_target {store : FileStore} {path : String} {l : Location}
    (h : store.target path = .ok l) : NamesFile path := by
  obtain ⟨parts, hparts, hwalk⟩ := bind_eq_ok.mp h
  generalize hnamed : (parts.reverse.dropWhile (· = "")).reverse = named at hwalk
  cases hlast : named.getLast? with
  | none => simp [hlast, throw, throwThe, MonadExceptOf.throw] at hwalk
  | some last =>
      simp only [hlast] at hwalk
      obtain ⟨parent, -, henter⟩ := bind_eq_ok.mp hwalk
      obtain ⟨location, -, hend⟩ := bind_eq_ok.mp henter
      split at hend
      · cases hend
      rename_i hname
      obtain rfl := eq_of_trimmed hnamed fun hlt => hname (.inl hlt)
      refine ⟨named.dropLast, last, ?_, ne_empty_of_trimmed hnamed hlast,
        fun hspecial => hname (.inr hspecial)⟩
      rw [hparts, List.dropLast_append_getLast? last hlast]

/-- A path that names a file leads to where it may be written, if there is no directory. -/
theorem target_of_namesFile {path : String} (h : NamesFile path) (store : FileStore) :
    store.target path = store.resolve path >>= fun l =>
      if store.node? l = some .directory then .error .isDirectory else .ok l := by
  obtain ⟨front, last, hparts, hempty, hspecial⟩ := h
  have htrimmed : ((front ++ [last]).reverse.dropWhile (· = "")).reverse = front ++ [last] := by
    simp [hempty]
  have hsegments : ∀ {α : Type} (next : List String → Except FileFault α),
      (segments path >>= next) = next (front ++ [last]) := by
    intro α next
    rw [hparts]
    rfl
  rw [target, resolve, hsegments, hsegments, List.foldlM_append]
  simp only [htrimmed, List.getLast?_append, List.getLast?_singleton, Option.some_or,
    List.dropLast_concat, List.foldlM_cons, List.foldlM_nil, bind_assoc]
  congr 1
  funext parent
  congr 1
  funext location
  rw [if_neg (by simpa using hspecial), pure_bind]
  cases store.node? location with
  | none => rfl
  | some node => cases node <;> rfl

theorem target_eq_ok {store : FileStore} {path : String} {l : Location} :
    store.target path = .ok l ↔
      NamesFile path ∧ store.resolve path = .ok l ∧ store.node? l ≠ some .directory := by
  constructor
  · intro h
    have hnames := namesFile_of_target h
    rw [target_of_namesFile hnames, bind_eq_ok] at h
    obtain ⟨location, hlocation, hend⟩ := h
    split at hend
    · cases hend
    · rename_i hnode
      cases hend
      exact ⟨hnames, hlocation, hnode⟩
  · rintro ⟨hnames, hlocation, hnode⟩
    rw [target_of_namesFile hnames]
    exact bind_eq_ok.mpr ⟨l, hlocation, if_neg hnode⟩

/-- Where a file is written, a path leads, and it leads to no directory. -/
theorem resolve_of_target {store : FileStore} {path : String} {l : Location}
    (h : store.target path = .ok l) :
    store.resolve path = .ok l ∧ store.node? l ≠ some .directory :=
  (target_eq_ok.mp h).2

end CallSite.FileStore
