import CallSite.Proofs.FileStore.Walking

/-!
# Writing and copying

Writing and copying each put one file where their path leads and touch nothing else. No directory
comes or goes with it, so every path leads where it led before, and the same file can be written again.
What a path reads after writing to it is what was written; a path that leads elsewhere reads what it
read before.
-/

namespace CallSite.FileStore

theorem lookup_place (location : Location) (node : Node) (nodes : List (Location × Node))
    (l : Location) :
    (place location node nodes).lookup l = if l = location then some node else nodes.lookup l := by
  induction nodes with
  | nil =>
      by_cases h : l = location
      · simp [place, h]
      · have hbeq : (l == location) = false := beq_eq_false_iff_ne.mpr h
        simp [place, List.lookup_cons, h, hbeq]
  | cons entry rest ih =>
      obtain ⟨other, found⟩ := entry
      rw [place]
      by_cases hother : other = location
      · subst hother
        by_cases h : l = other
        · simp [h]
        · have hbeq : (l == other) = false := beq_eq_false_iff_ne.mpr h
          simp [List.lookup_cons, h, hbeq]
      · rw [if_neg hother, List.lookup_cons, List.lookup_cons, ih]
        by_cases h : l = other
        · simp [h, hother]
        · have hbeq : (l == other) = false := beq_eq_false_iff_ne.mpr h
          simp [hbeq]

theorem node?_put (store : FileStore) (location : Location) (node : Node) (l : Location) :
    (store.put location node).node? l = if l = location then some node else store.node? l :=
  lookup_place location node store.nodes l

theorem place_place (location : Location) (first second : Node) (nodes : List (Location × Node)) :
    place location second (place location first nodes) = place location second nodes := by
  induction nodes with
  | nil => simp [place]
  | cons entry rest ih =>
      by_cases h : entry.1 = location
      · simp [place, h]
      · simp only [place, if_neg h, ih]

theorem place_of_lookup {location : Location} {node : Node} {nodes : List (Location × Node)}
    (h : nodes.lookup location = some node) : place location node nodes = nodes := by
  induction nodes with
  | nil => simp at h
  | cons entry rest ih =>
      obtain ⟨other, found⟩ := entry
      rw [place]
      by_cases hother : other = location
      · subst hother
        rw [List.lookup_cons_self] at h
        cases h
        rw [if_pos rfl]
      · have hbeq : (location == other) = false := beq_eq_false_iff_ne.mpr (Ne.symm hother)
        rw [List.lookup_cons, hbeq] at h
        rw [if_neg hother, ih h]

/-- Of two nodes put at one location the second remains. -/
theorem put_put (store : FileStore) (location : Location) (first second : Node) :
    (store.put location first).put location second = store.put location second := by
  simp only [put, place_place]

/-- Putting the node that is there changes nothing. -/
theorem put_of_node? {store : FileStore} {location : Location} {node : Node}
    (h : store.node? location = some node) : store.put location node = store := by
  simp only [put, place_of_lookup h]

/-- The later store has the file at the location, where no directory was, and is otherwise the
same. -/
structure Sets (store later : FileStore) (l : Location) (content : Bytes) (mode : Nat) : Prop where
  here : later.here = store.here
  before : store.node? l ≠ some .directory
  node?_eq : ∀ other, later.node? other =
    if other = l then some (.file content mode) else store.node? other

theorem sets_put {store : FileStore} {l : Location} (h : store.node? l ≠ some .directory)
    (content : Bytes) (mode : Nat) :
    store.Sets (store.put l (.file content mode)) l content mode :=
  ⟨rfl, h, node?_put store l (.file content mode)⟩

namespace Sets

variable {store later : FileStore} {l : Location} {content : Bytes} {mode : Nat}
  (h : store.Sets later l content mode)
include h

theorem node?_self : later.node? l = some (.file content mode) := by
  rw [h.node?_eq, if_pos rfl]

theorem node?_of_ne {other : Location} (hne : other ≠ l) :
    later.node? other = store.node? other := by
  rw [h.node?_eq, if_neg hne]

/-- Setting a file where one was set leaves the last one. -/
theorem trans {last : FileStore} {content' : Bytes} {mode' : Nat}
    (hlast : later.Sets last l content' mode') : store.Sets last l content' mode' where
  here := hlast.here.trans h.here
  before := h.before
  node?_eq other := by
    rw [hlast.node?_eq]
    by_cases hother : other = l
    · rw [if_pos hother, if_pos hother]
    · rw [if_neg hother, if_neg hother, h.node?_of_ne hother]

/-! ### Paths -/

theorem directory_iff (other : Location) :
    later.node? other = some .directory ↔ store.node? other = some .directory := by
  by_cases hother : other = l
  · subst hother
    rw [h.node?_self]
    constructor
    · intro hdirectory
      cases hdirectory
    · intro hdirectory
      exact absurd hdirectory h.before
  · rw [h.node?_of_ne hother]

theorem keeps : store.Keeps later :=
  ⟨h.here, fun other => (h.directory_iff other).mpr⟩

theorem keeps_symm : later.Keeps store :=
  ⟨h.here.symm, fun other => (h.directory_iff other).mp⟩

theorem resolve_iff {path : String} {other : Location} :
    later.resolve path = .ok other ↔ store.resolve path = .ok other :=
  ⟨h.keeps_symm.resolve, h.keeps.resolve⟩

theorem target_iff {path : String} {other : Location} :
    later.target path = .ok other ↔ store.target path = .ok other := by
  rw [target_eq_ok, target_eq_ok, h.resolve_iff, Ne, h.directory_iff]

theorem holdsAt_self {path : String} (hpath : store.resolve path = .ok l) :
    later.HoldsAt path l content :=
  ⟨h.resolve_iff.mpr hpath, mode, h.node?_self⟩

theorem holdsAt_of_ne {path : String} {other : Location} {held : Bytes} (hne : other ≠ l)
    (hother : store.HoldsAt path other held) : later.HoldsAt path other held := by
  rw [HoldsAt, h.resolve_iff, h.node?_of_ne hne]
  exact hother

end Sets

/-! ### Writing -/

theorem modeAt_of_node? {store : FileStore} {l : Location} {content : Bytes} {mode : Nat}
    (h : store.node? l = some (.file content mode)) : store.modeAt l = mode := by
  rw [modeAt, h]

theorem write_eq_ok {store later : FileStore} {path : String} {content : Bytes} :
    store.write path content = .ok later ↔
      ∃ l, store.target path = .ok l ∧ later = store.put l (.file content (store.modeAt l)) := by
  rw [write, bind_eq_ok]
  simp only [pure, Except.pure, Except.ok.injEq, eq_comm]

/-- A path that cannot be written to refuses every content alike. -/
theorem write_eq_error {store : FileStore} {path : String} {content : Bytes}
    {fault : FileFault} (h : store.write path content = .error fault) (other : Bytes) :
    store.write path other = .error fault := by
  rw [write] at h ⊢
  cases htarget : store.target path with
  | error refusal =>
      rw [htarget] at h
      cases h
      rfl
  | ok l =>
      rw [htarget] at h
      cases h

theorem sets_of_write {store later : FileStore} {path : String} {content : Bytes}
    (h : store.write path content = .ok later) :
    ∃ l, store.resolve path = .ok l ∧ store.Sets later l content (store.modeAt l) := by
  obtain ⟨l, hl, rfl⟩ := write_eq_ok.mp h
  obtain ⟨hresolve, hnode⟩ := resolve_of_target hl
  exact ⟨l, hresolve, sets_put hnode content _⟩

theorem holdsAt_write {store later : FileStore} {path : String} {content : Bytes}
    (h : store.write path content = .ok later) : ∃ l, later.HoldsAt path l content := by
  obtain ⟨l, hl, hsets⟩ := sets_of_write h
  exact ⟨l, hsets.holdsAt_self hl⟩

theorem read_write {store later : FileStore} {path : String} {content : Bytes}
    (h : store.write path content = .ok later) : later.read path = .ok content := by
  obtain ⟨l, hl⟩ := holdsAt_write h
  exact hl.read_eq

/-- A path that leads elsewhere holds what it held. -/
theorem HoldsAt.write {store later : FileStore} {path other : String} {content content' : Bytes}
    {l' : Location} (hother : store.HoldsAt other l' content')
    (h : store.write path content = .ok later)
    (hne : ∀ l, store.resolve path = .ok l → l' ≠ l) : later.HoldsAt other l' content' := by
  obtain ⟨l, hl, hsets⟩ := sets_of_write h
  exact hsets.holdsAt_of_ne (hne l hl) hother

/-! ### Copying -/

theorem copy_eq_ok {store later : FileStore} {source destination : String} :
    store.copy source destination = .ok later ↔
      ∃ origin content mode l, store.findFile source = .ok (origin, content, mode) ∧
        store.target destination = .ok l ∧
        later = store.put l (.file (if origin = l then [] else content) mode) := by
  rw [copy, bind_eq_ok]
  constructor
  · rintro ⟨⟨origin, content, mode⟩, hfound, htarget⟩
    obtain ⟨l, hl, hlater⟩ := bind_eq_ok.mp htarget
    exact ⟨origin, content, mode, l, hfound, hl, (Except.ok.inj hlater).symm⟩
  · rintro ⟨origin, content, mode, l, hfound, hl, rfl⟩
    exact ⟨_, hfound, bind_eq_ok.mpr ⟨l, hl, rfl⟩⟩

/-- A copy has the content and the access rights of its original, unless it is the same file, which
is emptied by then. -/
theorem sets_of_copy {store later : FileStore} {source destination : String}
    (h : store.copy source destination = .ok later) :
    ∃ origin content mode l, store.findFile source = .ok (origin, content, mode) ∧
      store.target destination = .ok l ∧
      store.Sets later l (if origin = l then [] else content) mode := by
  obtain ⟨origin, content, mode, l, hfound, hl, rfl⟩ := copy_eq_ok.mp h
  exact ⟨origin, content, mode, l, hfound, hl, sets_put (resolve_of_target hl).2 _ mode⟩

/-- What was copied to can be written to. -/
theorem write_of_copy {store copied : FileStore} {source destination : String}
    (h : store.copy source destination = .ok copied) (content : Bytes) :
    ∃ later, copied.write destination content = .ok later := by
  obtain ⟨origin, image, mode, l, -, hl, hsets⟩ := sets_of_copy h
  exact ⟨_, write_eq_ok.mpr ⟨l, hsets.target_iff.mpr hl, rfl⟩⟩

end CallSite.FileStore
