import CallSite.Proofs.Atlas.Names

/-!
# Names that are added in turn

Whatever a pool has at first, an index in its range keeps its name while names are added. Up to
`2 ^ 31` names, two additions give the same index just if they are of the same name, and that index
leads to the name ever after. Beyond that, the index of a new name leads to another one.
-/

namespace CallSite.NamePool

def InRange (pool : NamePool) (index : NameIndex) : Prop :=
  0 ≤ index.toInt ∧ index.toInt < pool.size

/-- The pool after the first `i` of the names are added. -/
def after (start : NamePool) (names : List String) (i : Nat) : NamePool :=
  start.addAll (names.take i)

/-- The index that adding the name at a place gives. -/
def given (start : NamePool) (names : List String) (i : Nat) (h : i < names.length) : NameIndex :=
  ((start.after names i).add names[i]).2

/-- Names that are added in turn are interned: what becomes of the pool and of its indices. -/
structure Interns (start : NamePool) (names : List String) : Prop where
  /-- An index in range stays there and keeps its name. -/
  get_later : ∀ {i j : Nat}, i ≤ j → ∀ {index}, (start.after names i).InRange index →
    (start.after names j).InRange index ∧
      (start.after names j).get index = (start.after names i).get index
  /-- The index of a name is in range and leads to it from then on. -/
  get_given : ∀ {i j : Nat} (h : i < names.length), (start.after names (i + 1)).size ≤ capacity →
    i < j → (start.after names j).InRange (start.given names i h) ∧
      (start.after names j).get (start.given names i h) = names[i]
  given_eq_iff : ∀ {i j : Nat} (hi : i < names.length) (hj : j < names.length),
    (start.after names (i + 1)).size ≤ capacity → (start.after names (j + 1)).size ≤ capacity →
      (start.given names i hi = start.given names j hj ↔ names[i] = names[j])
  size_succ : ∀ {i : Nat} (h : i < names.length), (start.after names (i + 1)).size =
    (start.after names i).size + if names[i] ∈ (start.after names i).names then 0 else 1
  /-- What is new comes behind what was there, in the order of first additions. -/
  names_eq : ∀ i, (start.after names i).names =
    start.names ++ ((names.take i).filter fun name => name ∉ start.names).eraseDups
  nodup : start.names.Nodup → ∀ i, (start.after names i).names.Nodup
  get_outside : ∀ i {index}, ¬ (start.after names i).InRange index →
    (start.after names i).get index = ""
  /-- A new name that finds the pool at its capacity gets the index of another. -/
  get_saturated : ∀ {i j : Nat} (h : i < names.length), capacity ≤ (start.after names i).size →
    names[i] ∉ (start.after names i).names → start.given names i h = Int32.maxValue ∧
      (i < j → (start.after names j).get Int32.maxValue ≠ names[i])

/-! ### Indices in range -/

section Range

variable {pool : NamePool} {index : NameIndex}

theorem inRange_iff : pool.InRange index ↔ ∃ name, pool.Leads index name := by
  simp only [InRange, Leads, exists_and_left, ← Option.isSome_iff_exists, isSome_getElem?, size]
  omega

theorem get_of_not_inRange (h : ¬ pool.InRange index) : pool.get index = "" := by
  rw [get]
  split
  case isTrue hindex =>
    have houtside : pool.names.length ≤ index.toInt.toNat := by
      rw [InRange, size] at h
      omega
    rw [List.getD_eq_getElem?_getD, List.getElem?_eq_none houtside]
    rfl
  case isFalse => rfl

theorem Leads.grown {later : NamePool} {name : String} (h : pool.Leads index name)
    (hpool : pool.names <+: later.names) : later.Leads index name := by
  obtain ⟨hlt, hname⟩ := List.getElem?_eq_some_iff.mp h.2
  refine ⟨h.1, ?_⟩
  rw [List.prefix_iff_getElem?.mp hpool _ hlt, hname]

theorem Leads.unique {name other : String} (h : pool.Leads index name)
    (hother : pool.Leads index other) : name = other := by
  have hsame := h.2
  rw [hother.2] at hsame
  exact (Option.some.inj hsame).symm

end Range

/-! ### One addition -/

theorem size_add (pool : NamePool) (name : String) :
    (pool.add name).1.size = pool.size + if name ∈ pool.names then 0 else 1 := by
  rw [size, names_add, appendNew]
  split
  · rfl
  · rw [List.length_append, List.length_singleton, size]

/-- The index that an addition gives leads to its name if the pool is within its capacity. -/
theorem leads_add {pool : NamePool} {name : String} (h : (pool.add name).1.size ≤ capacity) :
    (pool.add name).1.Leads (pool.add name).2 name := by
  rw [snd_add]
  have hmem := pool.mem_add name
  exact leads_indexIn hmem (idxOf_lt_capacity hmem h)

theorem snd_add_of_full {pool : NamePool} {name : String} (hsize : capacity ≤ pool.size)
    (hnot : name ∉ pool.names) : (pool.add name).2 = Int32.maxValue := by
  rw [capacity, size] at hsize
  rw [snd_add, indexIn, names_add, appendNew, if_neg hnot, List.idxOf_append_of_notMem hnot,
    List.idxOf_cons_self, indexOf, if_neg (by omega)]

/-- In a pool at its capacity the greatest index leads to a name that was there before. -/
theorem exists_leads_maxValue {pool : NamePool} (hsize : capacity ≤ pool.size) :
    ∃ name ∈ pool.names, pool.Leads Int32.maxValue name := by
  have hlast : Int32.maxValue.toInt.toNat < pool.names.length := by
    have hplace : Int32.maxValue.toInt.toNat < capacity := by decide
    rw [size] at hsize
    omega
  exact ⟨_, List.getElem_mem hlast, by decide, List.getElem?_eq_getElem hlast⟩

/-! ### Additions in turn -/

section Turn

variable (start : NamePool) (names : List String)

theorem names_after (i : Nat) :
    (start.after names i).names = (names.take i).foldl appendNew start.names :=
  start.names_addAll _

theorem after_succ {i : Nat} (h : i < names.length) :
    start.after names (i + 1) = ((start.after names i).add names[i]).1 := by
  rw [after, addAll, List.take_succ_eq_append_getElem h, List.foldl_append]
  rfl

/-- A pool grows at its end. -/
theorem prefix_after {i j : Nat} (h : i ≤ j) :
    (start.after names i).names <+: (start.after names j).names := by
  obtain ⟨more, hmore⟩ : names.take i <+: names.take j := List.take_prefix_take_left h
  rw [names_after, names_after, ← hmore, List.foldl_append, foldl_appendNew_eq _ more]
  exact List.prefix_append _ _

variable {start names} {i j : Nat}

theorem leads_given (h : i < names.length) (hsize : (start.after names (i + 1)).size ≤ capacity)
    (hij : i < j) : (start.after names j).Leads (start.given names i h) names[i] := by
  rw [after_succ start names h] at hsize
  have hnow := leads_add hsize
  rw [← after_succ start names h] at hnow
  exact hnow.grown (prefix_after start names hij)

/-- A name is given the index of its first place in every pool that comes later. -/
theorem given_eq_indexIn (h : i < names.length) (hij : i < j) :
    start.given names i h = (start.after names j).indexIn names[i] := by
  have hmem : names[i] ∈ (start.after names (i + 1)).names := by
    rw [after_succ start names h]
    exact mem_add _ _
  rw [indexIn_of_grown hmem (prefix_after start names hij), after_succ start names h]
  exact snd_add _ _

end Turn

/-- Adding names in turn interns them, whatever the pool has at first. -/
theorem interns (start : NamePool) (names : List String) : start.Interns names where
  get_later {i j} hij index hindex := by
    obtain ⟨name, hname⟩ := inRange_iff.mp hindex
    have hlater := hname.grown (prefix_after start names hij)
    exact ⟨inRange_iff.mpr ⟨name, hlater⟩, hlater.get_eq.trans hname.get_eq.symm⟩
  get_given h hsize hij := by
    have hleads := leads_given h hsize hij
    exact ⟨inRange_iff.mpr ⟨_, hleads⟩, hleads.get_eq⟩
  given_eq_iff {i j} hi hj hsizeI hsizeJ := by
    -- the pool after both additions is the one that tells their indices apart
    have hlastI : i < max i j + 1 := by omega
    have hlastJ : j < max i j + 1 := by omega
    constructor
    · intro hsame
      have hleads := leads_given hi hsizeI hlastI
      rw [hsame] at hleads
      exact hleads.unique (leads_given hj hsizeJ hlastJ)
    · intro hsame
      rw [given_eq_indexIn hi hlastI, given_eq_indexIn hj hlastJ, hsame]
  size_succ h := by
    rw [after_succ start names h]
    exact size_add _ _
  names_eq i := by
    rw [names_after, foldl_appendNew_eq]
  nodup hnodup i := by
    rw [names_after]
    exact nodup_foldl_appendNew hnodup _
  get_outside _ _ houtside := get_of_not_inRange houtside
  get_saturated {i j} h hsize hnot := by
    refine ⟨snd_add_of_full hsize hnot, fun hij => ?_⟩
    -- the greatest index belongs to a name that was there before, and keeps it
    obtain ⟨name, hmem, hleads⟩ := exists_leads_maxValue hsize
    rw [(hleads.grown (prefix_after start names (Nat.le_of_lt hij))).get_eq]
    exact ne_of_mem_of_not_mem hmem hnot

/-! ### A pool with a name twice, and a full one -/

def repeatingPool : NamePool :=
  ⟨["main.c", "unit", "main.c"]⟩

def fullPool : NamePool :=
  ⟨List.replicate capacity "main.c"⟩

def addedNames : List String :=
  ["unit", "", "main.c", "far.c", ""]

theorem interns_repeating :
    (repeatingPool.after addedNames 5).names = ["main.c", "unit", "main.c", "", "far.c"] ∧
      repeatingPool.given addedNames 1 (by decide) = repeatingPool.given addedNames 4 (by decide) ∧
      repeatingPool.given addedNames 0 (by decide) ≠ repeatingPool.given addedNames 2 (by decide) ∧
      (repeatingPool.after addedNames 5).get (repeatingPool.given addedNames 2 (by decide)) =
        "main.c" ∧
      fullPool.given addedNames 0 (by decide) = Int32.maxValue ∧
      (fullPool.after addedNames 5).get Int32.maxValue ≠ "unit" := by
  have h := repeatingPool.interns addedNames
  have hfull := fullPool.interns addedNames
  have hsize : ∀ i < 6, (repeatingPool.after addedNames i).size ≤ capacity := by decide
  have hsaturated := hfull.get_saturated (j := 5) (i := 0) (by decide)
    (by simp [after, addAll, fullPool, size])
    (by simp [after, addAll, fullPool, addedNames])
  refine ⟨?_, ?_, ?_, ?_, hsaturated.1, hsaturated.2 (by decide)⟩
  · rw [h.names_eq]
    decide
  · exact (h.given_eq_iff _ _ (hsize 2 (by decide)) (hsize 5 (by decide))).mpr rfl
  · intro hsame
    have hnames := (h.given_eq_iff _ _ (hsize 1 (by decide)) (hsize 3 (by decide))).mp hsame
    exact absurd hnames (by decide)
  · exact (h.get_given _ (hsize 3 (by decide)) (by decide)).2

end CallSite.NamePool
