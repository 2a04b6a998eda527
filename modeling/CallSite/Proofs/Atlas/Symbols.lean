import CallSite.Atlas.SymbolIndex
import Mathlib.Data.List.Basic

/-!
# What a symbol index holds

A look-up finds the symbol that was put in last with its identifier, and an index is rebuilt from
its own entries.
-/

namespace CallSite.SymbolIndex

/-! ### Looking symbols up -/

theorem id_eq_of_value_eq {a b : SymbolId} (h : a.value = b.value) : a = b := by
  cases a
  cases b
  cases h
  rfl

theorem find?_place (s : Symbol) (xs : List Symbol) (id : SymbolId) :
    (place s xs).1.find? (·.id = id) = if s.id = id then some s else xs.find? (·.id = id) := by
  induction xs with
  | nil => by_cases h : s.id = id <;> simp [place, h]
  | cons x xs ih =>
      rw [place]
      by_cases hlt : s.id.value < x.id.value
      · rw [if_pos hlt, List.find?_cons]
        by_cases h : s.id = id <;> simp [h]
      · rw [if_neg hlt]
        by_cases heq : s.id.value = x.id.value
        · have hid : x.id = s.id := id_eq_of_value_eq heq.symm
          rw [if_pos heq, List.find?_cons]
          by_cases h : s.id = id <;> simp [hid, h]
        · have hid : x.id ≠ s.id := fun h => heq (by rw [h])
          rw [if_neg heq, List.find?_cons, ih, List.find?_cons]
          by_cases hx : x.id = id
          · have hs : s.id ≠ id := fun h => hid (hx.trans h.symm)
            simp [hx, hs]
          · simp [hx]

/-- What gives way is what a look-up finds; the search may end early since the rest lies above. -/
theorem snd_place {s : Symbol} {xs : List Symbol}
    (h : xs.Pairwise fun a b => a.id.value < b.id.value) :
    (place s xs).2 = xs.find? (·.id = s.id) := by
  induction xs with
  | nil => rfl
  | cons x xs ih =>
      obtain ⟨hx, hxs⟩ := List.pairwise_cons.mp h
      rw [place]
      by_cases hlt : s.id.value < x.id.value
      · have habove : ∀ y ∈ x :: xs, y.id ≠ s.id := by
          intro y hy hid
          rw [← hid] at hlt
          rcases List.mem_cons.mp hy with rfl | hy
          · exact UInt64.lt_irrefl _ hlt
          · exact UInt64.lt_asymm hlt (hx y hy)
        rw [if_pos hlt]
        exact (List.find?_eq_none.mpr fun y hy => by simpa using habove y hy).symm
      · rw [if_neg hlt]
        by_cases heq : s.id.value = x.id.value
        · have hid : x.id = s.id := id_eq_of_value_eq heq.symm
          simp [heq, hid]
        · have hid : x.id ≠ s.id := fun h => heq (by rw [h])
          rw [if_neg heq, List.find?_cons_of_neg (by simpa using hid)]
          exact ih hxs

theorem get?_insert (index : SymbolIndex) (s : Symbol) (id : SymbolId) :
    (index.insert s).1.get? id = if s.id = id then some s else index.get? id :=
  find?_place s index.entries id

theorem snd_insert (index : SymbolIndex) (s : Symbol) :
    (index.insert s).2 = index.get? s.id :=
  snd_place index.ascending

@[simp]
theorem get?_empty (id : SymbolId) : empty.get? id = none :=
  rfl

/-- After insertions in turn, a look-up finds the last of them with its identifier. -/
theorem get?_foldl_insert (index : SymbolIndex) (symbols : List Symbol) (id : SymbolId) :
    (symbols.foldl (fun index s => (index.insert s).1) index).get? id =
      ((symbols.filter (·.id = id)).getLast?).or (index.get? id) := by
  induction symbols generalizing index with
  | nil => simp
  | cons s rest ih =>
      rw [List.foldl_cons, ih, get?_insert]
      by_cases h : s.id = id
      · simp [h, List.getLast?_cons]
      · simp [h]

/-! ### Symbols at an address -/

/-- Of the symbols at an address the one of smallest identifier is found. -/
theorem at?_eq_some_iff {index : SymbolIndex} {address : Address} {s : Symbol} :
    index.at? address = some s ↔
      s ∈ index.entries ∧ s.address = address ∧
        ∀ t ∈ index.entries, t.address = address → s.id.value ≤ t.id.value := by
  rw [at?, List.find?_eq_some_iff_append, decide_eq_true_iff]
  constructor
  · rintro ⟨haddress, front, back, hentries, hfront⟩
    have hascending := index.ascending
    rw [hentries] at hascending ⊢
    refine ⟨by simp, haddress, fun t ht htaddress => ?_⟩
    rcases List.mem_append.mp ht with ht | ht
    · exact absurd htaddress (by simpa using hfront t ht)
    · rcases List.mem_cons.mp ht with rfl | ht
      · exact UInt64.le_refl _
      · have hafter := (List.pairwise_append.mp hascending).2.1
        exact UInt64.le_of_lt (List.rel_of_pairwise_cons hafter ht)
  · rintro ⟨hs, haddress, hleast⟩
    obtain ⟨front, back, hentries⟩ := List.append_of_mem hs
    refine ⟨haddress, front, back, hentries, fun t ht => ?_⟩
    have hascending := index.ascending
    rw [hentries] at hascending hleast
    have hbelow : t.id.value < s.id.value :=
      (List.pairwise_append.mp hascending).2.2 t ht s List.mem_cons_self
    have hne : t.address ≠ address := fun heq =>
      UInt64.not_lt.mpr (hleast t (List.mem_append_left _ ht) heq) hbelow
    simpa using hne

theorem at?_eq_none_iff {index : SymbolIndex} {address : Address} :
    index.at? address = none ↔ ∀ s ∈ index.entries, s.address ≠ address := by
  simp [at?]

/-! ### Counting symbols -/

theorem length_place (s : Symbol) (xs : List Symbol) :
    (place s xs).1.length + (place s xs).2.toList.length = xs.length + 1 := by
  induction xs with
  | nil => rfl
  | cons x xs ih =>
      rw [place]
      by_cases hlt : s.id.value < x.id.value
      · rw [if_pos hlt]
        rfl
      · rw [if_neg hlt]
        by_cases heq : s.id.value = x.id.value
        · rw [if_pos heq]
          rfl
        · have hlength : (x :: (place s xs).1).length + (place s xs).2.toList.length =
              (x :: xs).length + 1 := by
            rw [List.length_cons, List.length_cons]
            omega
          rw [if_neg heq]
          exact hlength

/-- A symbol that is put in is one more, unless it takes the place of another. -/
theorem size_insert (index : SymbolIndex) (s : Symbol) :
    (index.insert s).1.size + (index.insert s).2.toList.length = index.size + 1 :=
  length_place s index.entries

/-! ### Rebuilding an index -/

@[ext]
theorem ext {a b : SymbolIndex} (h : a.entries = b.entries) : a = b := by
  cases a
  cases b
  cases h
  rfl

theorem place_of_forall_lt {s : Symbol} {xs : List Symbol}
    (h : ∀ x ∈ xs, x.id.value < s.id.value) : (place s xs).1 = xs ++ [s] := by
  induction xs with
  | nil => rfl
  | cons x xs ih =>
      have hx : x.id.value < s.id.value := h x List.mem_cons_self
      have hlt : ¬ s.id.value < x.id.value := UInt64.lt_asymm hx
      have hne : ¬ s.id.value = x.id.value := (UInt64.ne_of_lt hx).symm
      rw [place, if_neg hlt, if_neg hne]
      exact congrArg (x :: ·) (ih fun y hy => h y (List.mem_cons_of_mem _ hy))

/-- Symbols in ascending order come after the entries that are below them. -/
theorem entries_foldl_insert (index : SymbolIndex) (symbols : List Symbol)
    (h : (index.entries ++ symbols).Pairwise fun a b => a.id.value < b.id.value) :
    (symbols.foldl (fun index s => (index.insert s).1) index).entries = index.entries ++ symbols := by
  induction symbols generalizing index with
  | nil => simp
  | cons s rest ih =>
      have hplace : (index.insert s).1.entries = index.entries ++ [s] :=
        place_of_forall_lt fun x hx =>
          (List.pairwise_append.mp h).2.2 x hx s List.mem_cons_self
      rw [List.append_cons, ← hplace] at h
      rw [List.foldl_cons, ih _ h, hplace, List.append_assoc]
      rfl

theorem ofList_entries (index : SymbolIndex) : ofList index.entries = index :=
  ext (entries_foldl_insert empty index.entries index.ascending)

end CallSite.SymbolIndex
