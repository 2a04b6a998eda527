import CallSite.Proofs.Distinct
import CallSite.Resolver

/-!
# What a resolver remembers

Remembering an answer for a module changes what is remembered for the paths of that module and for
no others. Every module has one entry, whichever of its paths it was asked for first.
-/

namespace CallSite

theorem ModulePath.Same.symm {a b : ModulePath} (h : a.Same b) : b.Same a :=
  Eq.symm h

theorem ModulePath.Same.trans {a b c : ModulePath} (hab : a.Same b) (hbc : b.Same c) : a.Same c :=
  Eq.trans hab hbc

namespace Resolver

/-- The modules that an answer is remembered for, in the order of their entries. -/
def modules (r : Resolver) : List (List PathComponent) :=
  r.cache.map fun entry => entry.1.components

theorem size_eq (r : Resolver) : r.size = r.modules.length := by
  rw [size, modules, List.length_map]

theorem find?_place {path other : ModulePath} {answer : Option Atlas}
    {cache : List (ModulePath × Option Atlas)} :
    ((remember.place path answer cache).find? fun entry => decide (entry.1.Same other)).map (·.2) =
      if path.Same other then some answer
      else (cache.find? fun entry => decide (entry.1.Same other)).map (·.2) := by
  induction cache with
  | nil => by_cases h : path.Same other <;> simp [remember.place, h]
  | cons entry rest ih =>
      rw [remember.place]
      by_cases hentry : entry.1.Same path
      · rw [if_pos hentry]
        by_cases h : path.Same other
        · have hother : entry.1.Same other := hentry.trans h
          simp [h, hother]
        · have hother : ¬ entry.1.Same other := fun hsame => h (hentry.symm.trans hsame)
          simp [h, hother]
      · rw [if_neg hentry, List.find?_cons, List.find?_cons]
        by_cases hother : entry.1.Same other
        · have h : ¬ path.Same other := fun hsame => hentry (hother.trans hsame.symm)
          simp [h, hother]
        · simp only [hother, decide_false]
          exact ih

theorem cached?_remember (r : Resolver) (path other : ModulePath) (answer : Option Atlas) :
    (r.remember path answer).cached? other =
      if path.Same other then some answer else r.cached? other :=
  find?_place

/-- Whichever path of a module is asked for, the same is remembered. -/
theorem cached?_same (r : Resolver) {a b : ModulePath} (h : a.Same b) :
    r.cached? a = r.cached? b := by
  have hentry : (fun entry : ModulePath × Option Atlas => decide (entry.1.Same a)) =
      fun entry => decide (entry.1.Same b) := by
    funext entry
    exact decide_eq_decide.mpr ⟨fun hsame => hsame.trans h, fun hsame => hsame.trans h.symm⟩
  rw [cached?, cached?, hentry]

theorem map_place {path : ModulePath} {answer : Option Atlas}
    {cache : List (ModulePath × Option Atlas)} :
    (remember.place path answer cache).map (fun entry => entry.1.components) =
      appendNew (cache.map fun entry => entry.1.components) path.components := by
  rw [appendNew]
  induction cache with
  | nil => rfl
  | cons entry rest ih =>
      rw [remember.place]
      by_cases hentry : entry.1.Same path
      · have hmem : path.components = entry.1.components := hentry.symm
        simp [hentry, hmem]
      · have hne : ¬ path.components = entry.1.components := fun h => hentry h.symm
        rw [if_neg hentry, List.map_cons, List.map_cons, ih]
        by_cases hmem : path.components ∈ rest.map fun entry => entry.1.components
        · rw [if_pos hmem, if_pos (List.mem_cons_of_mem _ hmem)]
        · rw [if_neg hmem, if_neg (by simpa [hne] using hmem), List.cons_append]

/-- A module that nothing was remembered for comes after all others. -/
theorem modules_remember (r : Resolver) (path : ModulePath) (answer : Option Atlas) :
    (r.remember path answer).modules = appendNew r.modules path.components :=
  map_place

theorem mem_modules_iff {r : Resolver} {path : ModulePath} :
    path.components ∈ r.modules ↔ (r.cached? path).isSome := by
  rw [modules, cached?, Option.isSome_map, List.find?_isSome, List.mem_map]
  constructor
  · rintro ⟨entry, hmem, heq⟩
    exact ⟨entry, hmem, decide_eq_true heq⟩
  · rintro ⟨entry, hmem, heq⟩
    exact ⟨entry, hmem, of_decide_eq_true heq⟩

/-! ### Resolving -/

/-- A call site is located in the atlas of its module, and at most one event is told after that. -/
theorem exists_run_resolve {σ : Type} {load : ModulePath → StateM σ (Except Fault (Option Atlas))}
    {tell : Event → StateM σ Unit} {path : ModulePath} {r r' : Resolver} {s s' : σ}
    {found : Option Atlas} (h : (r.atlas load tell path).run s = ((found, r'), s'))
    (id : SymbolId) (offset : Int64) :
    ∃ s'', (r.resolve load tell path id offset).run s =
        ((found.bind fun atlas => atlas.locate id offset, r'), s'') ∧
      (s'' = s' ∨ s'' = ((tell (.unresolved path.text id offset)).run s').2) := by
  rw [resolve, StateT.run_bind, h]
  cases found with
  | none => exact ⟨s', rfl, .inl rfl⟩
  | some atlas =>
      cases hlocate : atlas.locate id offset with
      | none =>
          refine ⟨_, ?_, .inr rfl⟩
          simp only [bind, hlocate, Option.bind]
          rfl
      | some position =>
          refine ⟨s', ?_, .inl rfl⟩
          simp only [bind, hlocate, Option.bind]
          rfl

end Resolver

end CallSite
