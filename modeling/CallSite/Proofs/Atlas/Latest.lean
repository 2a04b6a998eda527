import CallSite.Proofs.Atlas.Symbols
import Mathlib.Data.List.Dedup
import Mathlib.Data.List.Sort

/-!
# The latest symbols

An index that symbols are put into in turn is the map of the latest symbol of each identifier, in
the order of the identifiers. So an index is the same whatever the order in which its symbols came
and whatever they replaced.
-/

namespace CallSite.SymbolIndex

/-- The symbol with an identifier that comes last. -/
def latest? (symbols : List Symbol) (id : SymbolId) : Option Symbol :=
  (symbols.filter (·.id = id)).getLast?

/-- The index has the latest symbol of each identifier, and nothing else. -/
structure HasLatest (index : SymbolIndex) (symbols : List Symbol) : Prop where
  get?_eq : ∀ id, index.get? id = latest? symbols id
  ascending : index.entries.Pairwise fun a b => a.id.value < b.id.value
  mem_iff : ∀ s, s ∈ index.entries ↔ latest? symbols s.id = some s
  ids_perm : (index.entries.map Symbol.id).Perm (symbols.map Symbol.id).dedup
  /-- Of the symbols that are at an address now, the one of smallest identifier is found. -/
  at?_eq_some_iff : ∀ address s, index.at? address = some s ↔
    latest? symbols s.id = some s ∧ s.address = address ∧
      ∀ t, latest? symbols t.id = some t → t.address = address → s.id.value ≤ t.id.value
  at?_eq_none_iff : ∀ address, index.at? address = none ↔
    ∀ s, latest? symbols s.id = some s → s.address ≠ address

/-- A symbol takes the place of another one with its identifier, or of none, among others that
stay. -/
structure Replaces (before later : SymbolIndex) (s : Symbol) (replaced : Option Symbol)
    (others : List Symbol) : Prop where
  before_perm : before.entries.Perm (replaced.toList ++ others)
  later_perm : later.entries.Perm (s :: others)
  id_eq : ∀ r ∈ replaced, r.id = s.id
  id_ne : ∀ t ∈ others, t.id ≠ s.id

/-- Puts symbols in turn, and lists what each insertion gives back. -/
def insertAll (index : SymbolIndex) : List Symbol → SymbolIndex × List (Option Symbol)
  | [] => (index, [])
  | s :: rest =>
      let (later, replaced) := index.insert s
      let (last, others) := later.insertAll rest
      (last, replaced :: others)

/-! ### Entries and look-ups -/

theorem filter_eq_find? {xs : List Symbol} (h : xs.Pairwise fun a b => a.id.value < b.id.value)
    (id : SymbolId) : xs.filter (·.id = id) = (xs.find? (·.id = id)).toList := by
  induction xs with
  | nil => rfl
  | cons x xs ih =>
    obtain ⟨hx, hxs⟩ := List.pairwise_cons.mp h
    by_cases hid : x.id = id
    · have hnone : xs.filter (·.id = id) = [] := by
        apply List.filter_eq_nil_iff.mpr
        intro y hy
        have hne : y.id ≠ id := by
          rintro rfl
          exact UInt64.lt_irrefl _ (hid ▸ hx y hy)
        simpa using hne
      simp [hid, hnone]
    · simpa [hid] using ih hxs

theorem mem_entries_iff {index : SymbolIndex} {s : Symbol} :
    s ∈ index.entries ↔ index.get? s.id = some s := by
  have hfilter := filter_eq_find? index.ascending s.id
  rw [get?, ← Option.mem_toList, ← hfilter, List.mem_filter]
  simp

theorem id_of_get? {index : SymbolIndex} {id : SymbolId} {s : Symbol} (h : index.get? id = some s) :
    s.id = id := by
  simpa using List.find?_some h

/-- Two indices in which every look-up finds the same are equal. -/
theorem ext_get? {a b : SymbolIndex} (h : ∀ id, a.get? id = b.get? id) : a = b := by
  have hanti : Std.Antisymm fun s t : Symbol => s.id.value < t.id.value :=
    ⟨fun _ _ hst hts => absurd hts (UInt64.lt_asymm hst)⟩
  have hirrefl : Std.Irrefl fun s t : Symbol => s.id.value < t.id.value :=
    ⟨fun _ => UInt64.lt_irrefl _⟩
  apply ext
  apply a.ascending.eq_of_mem_iff b.ascending
  intro s
  rw [mem_entries_iff, mem_entries_iff, h]

theorem nodup_ids (index : SymbolIndex) : (index.entries.map Symbol.id).Nodup := by
  apply List.pairwise_map.mpr
  apply index.ascending.imp
  intro a b hlt heq
  exact UInt64.lt_irrefl _ (heq ▸ hlt)

/-! ### One symbol more -/

theorem place_perm {s : Symbol} {xs : List Symbol}
    (h : xs.Pairwise fun a b => a.id.value < b.id.value) :
    (place s xs).1.Perm (s :: xs.filter (·.id ≠ s.id)) := by
  induction xs with
  | nil => exact .refl _
  | cons x xs ih =>
    obtain ⟨hx, hxs⟩ := List.pairwise_cons.mp h
    -- symbols behind one that is not below `s` have other identifiers
    have hrest : s.id.value ≤ x.id.value → xs.filter (·.id ≠ s.id) = xs := by
      intro hle
      apply List.filter_eq_self.mpr
      intro y hy
      have hne : y.id ≠ s.id := by
        rintro heq
        exact UInt64.not_lt.mpr hle (heq ▸ hx y hy)
      simpa using hne
    rw [place]
    by_cases hlt : s.id.value < x.id.value
    · have hne : x.id ≠ s.id := by
        rintro heq
        exact UInt64.lt_irrefl _ (heq ▸ hlt)
      rw [if_pos hlt, List.filter_cons_of_pos (by simpa using hne), hrest (UInt64.le_of_lt hlt)]
    · rw [if_neg hlt]
      by_cases heq : s.id.value = x.id.value
      · have hid : x.id = s.id := id_eq_of_value_eq heq.symm
        rw [if_pos heq, List.filter_cons_of_neg (by simpa using hid),
          hrest (UInt64.le_of_eq heq)]
      · have hne : x.id ≠ s.id := fun hid => heq (by rw [hid])
        rw [if_neg heq, List.filter_cons_of_pos (by simpa using hne)]
        exact ((ih hxs).cons x).trans (.swap s x _)

/-- What an insertion gives back gives way to the symbol that is put in, and all else stays. -/
theorem replaces_insert (index : SymbolIndex) (s : Symbol) :
    index.Replaces (index.insert s).1 s (index.insert s).2
      (index.entries.filter (·.id ≠ s.id)) where
  before_perm := by
    have hperm := List.filter_append_perm (fun t : Symbol => decide (t.id = s.id)) index.entries
    rw [filter_eq_find? index.ascending] at hperm
    rw [snd_insert]
    simpa [get?] using hperm.symm
  later_perm := place_perm index.ascending
  id_eq r hr := by
    rw [snd_insert] at hr
    exact id_of_get? hr
  id_ne t ht := by simpa using (List.mem_filter.mp ht).2

/-! ### Symbols in turn -/

theorem get?_ofList (symbols : List Symbol) (id : SymbolId) :
    (ofList symbols).get? id = latest? symbols id := by
  rw [ofList, get?_foldl_insert, get?_empty, Option.or_none, latest?]

theorem ofList_append_singleton (symbols : List Symbol) (s : Symbol) :
    ofList (symbols ++ [s]) = ((ofList symbols).insert s).1 := by
  rw [ofList, List.foldl_append]
  rfl

theorem insert_ofList (symbols : List Symbol) (s : Symbol) :
    (ofList symbols).insert s = (ofList (symbols ++ [s]), latest? symbols s.id) :=
  Prod.ext (ofList_append_singleton symbols s).symm
    ((snd_insert _ s).trans (get?_ofList symbols s.id))

/-- Each insertion gives back the latest symbol with its identifier among those before it. -/
theorem insertAll_ofList (earlier symbols : List Symbol) :
    (ofList earlier).insertAll symbols =
      (ofList (earlier ++ symbols),
        symbols.mapIdx fun i s => latest? (earlier ++ symbols.take i) s.id) := by
  induction symbols generalizing earlier with
  | nil => simp [insertAll]
  | cons s rest ih =>
    rw [insertAll, insert_ofList]
    simp only [ih, List.mapIdx_cons, List.take_zero, List.take_succ_cons, List.append_nil,
      List.append_assoc, List.singleton_append]

theorem latest?_isSome_iff {symbols : List Symbol} {id : SymbolId} :
    (latest? symbols id).isSome ↔ id ∈ symbols.map Symbol.id := by
  rw [latest?, List.getLast?_isSome]
  simp

theorem hasLatest_ofList (symbols : List Symbol) : (ofList symbols).HasLatest symbols where
  get?_eq := get?_ofList symbols
  ascending := (ofList symbols).ascending
  mem_iff s := by rw [mem_entries_iff, get?_ofList]
  ids_perm := by
    apply (List.perm_ext_iff_of_nodup (nodup_ids _) (List.nodup_dedup _)).mpr
    intro id
    have hfound : ((ofList symbols).get? id).isSome ↔ id ∈ symbols.map Symbol.id := by
      rw [get?_ofList, latest?_isSome_iff]
    rw [List.mem_dedup, ← hfound, get?, List.find?_isSome]
    simp
  at?_eq_some_iff address s := by
    simp only [SymbolIndex.at?_eq_some_iff, mem_entries_iff, get?_ofList]
  at?_eq_none_iff address := by
    simp only [SymbolIndex.at?_eq_none_iff, mem_entries_iff, get?_ofList]

theorem ofList_eq_iff {symbols others : List Symbol} :
    ofList symbols = ofList others ↔ ∀ id, latest? symbols id = latest? others id := by
  simp only [← get?_ofList]
  constructor
  · intro h id
    rw [h]
  · exact ext_get?

/-! ### Symbols that replace none -/

section Distinct

variable {symbols : List Symbol} (h : (symbols.map Symbol.id).Nodup)
include h

theorem latest?_eq_some_iff {s : Symbol} : latest? symbols s.id = some s ↔ s ∈ symbols := by
  constructor
  · intro hlatest
    exact List.mem_of_mem_filter (List.mem_of_getLast? hlatest)
  · intro hs
    obtain ⟨t, ht⟩ : ∃ t, latest? symbols s.id = some t :=
      Option.isSome_iff_exists.mp (latest?_isSome_iff.mpr (List.mem_map_of_mem hs))
    obtain ⟨hmem, hid⟩ := List.mem_filter.mp (List.mem_of_getLast? ht)
    rw [ht, List.inj_on_of_nodup_map h hmem hs (of_decide_eq_true hid)]

/-- Symbols of different identifiers are all there, once each. -/
theorem entries_ofList_perm : (ofList symbols).entries.Perm symbols := by
  apply (List.perm_ext_iff_of_nodup (List.Nodup.of_map _ (nodup_ids _)) (h.of_map _)).mpr
  intro s
  rw [mem_entries_iff, get?_ofList, latest?_eq_some_iff h]

end Distinct

end CallSite.SymbolIndex
