import CallSite.Atlas.NamePool
import CallSite.Proofs.Distinct

/-!
# Names and their indices

A pool grows at its end only, so a name keeps its first place and the index of that place. The index
that adding a name gives leads to that name as long as the pool has at most `2 ^ 31` names.
-/

namespace CallSite.NamePool

/-- The number of names that indices can tell apart. -/
def capacity : Nat := 0x80000000

/-- The index leads to the name, and not past the end of the pool. -/
def Leads (pool : NamePool) (index : NameIndex) (name : String) : Prop :=
  0 ≤ index.toInt ∧ pool.names[index.toInt.toNat]? = some name

theorem Leads.get_eq {pool : NamePool} {index : NameIndex} {name : String}
    (h : pool.Leads index name) : pool.get index = name := by
  rw [get, if_pos h.1, List.getD_eq_getElem?_getD, h.2]
  rfl

theorem toInt_indexOf {position : Nat} (h : position < capacity) :
    (indexOf position).toInt = position := by
  rw [capacity] at h
  rw [indexOf, if_pos h, Int32.toInt_ofNat_of_lt h]

theorem leads_indexOf {pool : NamePool} {position : Nat} {name : String}
    (h : position < capacity) (hname : pool.names[position]? = some name) :
    pool.Leads (indexOf position) name := by
  have hindex := toInt_indexOf h
  exact ⟨by omega, by rwa [hindex, Int.toNat_natCast]⟩

/-- The index of a place past the capacity leads to the last place before it. -/
theorem get_indexOf (pool : NamePool) (position : Nat) :
    pool.get (indexOf position) = pool.names.getD (min position (capacity - 1)) "" := by
  by_cases h : position < capacity
  · have hmin : min position (capacity - 1) = position := by omega
    rw [get, toInt_indexOf h, if_pos (by omega), hmin, Int.toNat_natCast]
  · have hmin : min position (capacity - 1) = capacity - 1 := by omega
    have hindex : indexOf position = Int32.maxValue := if_neg h
    rw [get, hindex, hmin]
    rfl

/-! ### First places -/

/-- The index of the first place where a name stands. -/
def indexIn (pool : NamePool) (name : String) : NameIndex :=
  indexOf (pool.names.idxOf name)

theorem leads_indexIn {pool : NamePool} {name : String} (hmem : name ∈ pool.names)
    (hplace : pool.names.idxOf name < capacity) : pool.Leads (pool.indexIn name) name :=
  leads_indexOf hplace (List.getElem?_idxOf hmem)

theorem idxOf_lt_capacity {pool : NamePool} {name : String} (hmem : name ∈ pool.names)
    (hsize : pool.size ≤ capacity) : pool.names.idxOf name < capacity :=
  Nat.lt_of_lt_of_le (List.idxOf_lt_length_iff.mpr hmem) hsize

/-- A name that a pool has keeps its index as the pool grows. -/
theorem indexIn_of_grown {pool later : NamePool} {name : String} (hmem : name ∈ pool.names)
    (hpool : pool.names <+: later.names) : later.indexIn name = pool.indexIn name := by
  obtain ⟨rest, hrest⟩ := hpool
  rw [indexIn, ← hrest, List.idxOf_append_of_mem hmem, indexIn]

/-! ### Adding a name -/

/-- A name that is there already adds nothing, any other one is put at the end. -/
theorem names_add (pool : NamePool) (name : String) :
    (pool.add name).1.names = appendNew pool.names name := by
  rw [add, appendNew]
  cases h : pool.names.findIdx? (· == name) with
  | none =>
      have hnot : name ∉ pool.names := by
        intro hmem
        simpa using List.findIdx?_eq_none_iff.mp h name hmem
      simp [hnot]
  | some position =>
      obtain ⟨hlt, heq, -⟩ := List.findIdx?_eq_some_iff_getElem.mp h
      have hmem : name ∈ pool.names := by
        rw [← LawfulBEq.eq_of_beq heq]
        exact List.getElem_mem hlt
      simp [hmem]

theorem prefix_add (pool : NamePool) (name : String) :
    pool.names <+: (pool.add name).1.names := by
  rw [names_add]
  exact prefix_appendNew pool.names name

theorem mem_add (pool : NamePool) (name : String) : name ∈ (pool.add name).1.names := by
  rw [names_add, mem_appendNew]
  exact .inr rfl

/-- Adding a name gives the index of its first place in the pool that has it. -/
theorem snd_add (pool : NamePool) (name : String) :
    (pool.add name).2 = (pool.add name).1.indexIn name := by
  rw [add, indexIn]
  cases h : pool.names.findIdx? (· == name) with
  | none =>
      have hnot : name ∉ pool.names := by
        intro hmem
        simpa using List.findIdx?_eq_none_iff.mp h name hmem
      simp [List.idxOf_append_of_notMem hnot, size]
  | some position =>
      obtain ⟨-, hposition⟩ := List.findIdx?_eq_some_iff_findIdx_eq.mp h
      rw [← hposition]
      rfl

/-! ### Adding names in turn -/

def addAll (pool : NamePool) (names : List String) : NamePool :=
  names.foldl (fun pool name => (pool.add name).1) pool

theorem names_addAll (pool : NamePool) (names : List String) :
    (pool.addAll names).names = names.foldl appendNew pool.names := by
  induction names generalizing pool with
  | nil => rfl
  | cons name rest ih =>
      have hrest := ih (pool.add name).1
      rw [names_add] at hrest
      exact hrest

end CallSite.NamePool
