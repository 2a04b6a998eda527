import CallSite.Address
import CallSite.Proofs.Stable

/-!
# Items along the addresses

Of items that lie at addresses, the last one up to a target depends on their order, and the nearest
one on their addresses and, among equal ones, on their order. In ascending order both are the same
item, and a stable sort does not change which one is the nearest.
-/

namespace CallSite

namespace Address

theorem le_antisymm {a b : Address} (hab : a ≤ b) (hba : b ≤ a) : a = b := by
  cases a
  cases b
  exact congrArg Address.mk (UInt64.le_antisymm hab hba)

theorem le_trans {a b c : Address} (hab : a ≤ b) (hbc : b ≤ c) : a ≤ c :=
  UInt64.le_trans hab hbc

theorem le_total (a b : Address) : a ≤ b ∨ b ≤ a :=
  UInt64.le_total a.value b.value

end Address

section Items

variable {α β : Type} (address : α → Address)

/-- The last of the items that lie at or below a target, wherever the others lie. -/
def LastUpTo (items : List α) (target : Address) (a : α) : Prop :=
  ∃ front back, items = front ++ a :: back ∧ address a ≤ target ∧
    ∀ later ∈ back, ¬ address later ≤ target

/-- An item at the greatest address up to a target, and the last one there. -/
structure Nearest (items : List α) (target : Address) (a : α) : Prop where
  le : address a ≤ target
  greatest : ∀ other ∈ items, address other ≤ target → address other ≤ address a
  last : (items.filter fun other => address other = address a).getLast? = some a

/-- The same items in ascending order, those of equal address in the order that they had. -/
structure StablySorted (sorted original : List α) : Prop where
  perm : sorted.Perm original
  ascending : sorted.Pairwise fun a b => address a ≤ address b
  stable : ∀ a, (sorted.filter fun item => address item = a) =
    original.filter fun item => address item = a

variable {address} {items sorted original : List α} {target : Address} {a b : α}

theorem getLast?_filter_eq_some_iff :
    (items.filter fun item => address item ≤ target).getLast? = some a ↔
      LastUpTo address items target a := by
  rw [List.getLast?_filter, List.find?_eq_some_iff_append]
  constructor
  · rintro ⟨hle, back, front, hitems, hback⟩
    refine ⟨front.reverse, back.reverse, ?_, of_decide_eq_true hle, fun later hlater => ?_⟩
    · simpa using congrArg List.reverse hitems
    · simpa using hback later (List.mem_reverse.mp hlater)
  · rintro ⟨front, back, rfl, hle, hback⟩
    refine ⟨decide_eq_true hle, back.reverse, front.reverse, by simp, fun later hlater => ?_⟩
    simpa using hback later (List.mem_reverse.mp hlater)

/-! ### The nearest item -/

theorem Nearest.mem (h : Nearest address items target a) : a ∈ items :=
  List.mem_of_mem_filter (List.mem_of_getLast? h.last)

theorem Nearest.unique (ha : Nearest address items target a) (hb : Nearest address items target b) :
    a = b := by
  have heq : address a = address b :=
    Address.le_antisymm (hb.greatest a ha.mem ha.le) (ha.greatest b hb.mem hb.le)
  have hlast := ha.last
  rw [heq, hb.last] at hlast
  exact (Option.some.inj hlast).symm

/-- In ascending order, what comes after the last item up to a target lies above it, and what comes
before lies no further up. -/
theorem LastUpTo.nearest (h : LastUpTo address items target a)
    (hsorted : items.Pairwise fun a b => address a ≤ address b) :
    Nearest address items target a := by
  obtain ⟨front, back, rfl, hle, hback⟩ := h
  have hfront : ∀ other ∈ front, address other ≤ address a := fun other hother =>
    (List.pairwise_append.mp hsorted).2.2 other hother a List.mem_cons_self
  refine ⟨hle, fun other hother hbelow => ?_, ?_⟩
  · rcases List.mem_append.mp hother with hother | hother
    · exact hfront other hother
    · rcases List.mem_cons.mp hother with rfl | hother
      · exact UInt64.le_refl _
      · exact absurd hbelow (hback other hother)
  · have hnone : (back.filter fun other => address other = address a) = [] := by
      refine List.filter_eq_nil_iff.mpr fun other hother heq => hback other hother ?_
      rw [of_decide_eq_true heq]
      exact hle
    simp [List.filter_append, hnone]

theorem lastUpTo_iff_nearest (hsorted : items.Pairwise fun a b => address a ≤ address b) :
    LastUpTo address items target a ↔ Nearest address items target a := by
  refine ⟨fun h => h.nearest hsorted, fun h => ?_⟩
  have hmem : a ∈ items.filter fun item => address item ≤ target :=
    List.mem_filter.mpr ⟨h.mem, decide_eq_true h.le⟩
  obtain ⟨last, hlast⟩ := Option.isSome_iff_exists.mp
    (List.getLast?_isSome.mpr (List.ne_nil_of_mem hmem))
  have hlastUpTo := getLast?_filter_eq_some_iff.mp hlast
  rw [h.unique (hlastUpTo.nearest hsorted)]
  exact hlastUpTo

/-- Items that stand for others lie where these lie. -/
theorem nearest_map {place : β → Address} {f : α → β} (hf : ∀ a, place (f a) = address a) {m : β} :
    Nearest place (items.map f) target m ↔ ∃ a, Nearest address items target a ∧ m = f a := by
  have hfilter : ∀ b, ((items.map f).filter fun other => place other = b) =
      (items.filter fun other => address other = b).map f := by
    intro b
    simp only [List.filter_map, Function.comp_def, hf]
  constructor
  · intro h
    have hlast := h.last
    rw [hfilter, List.getLast?_map] at hlast
    obtain ⟨a, ha, rfl⟩ := Option.map_eq_some_iff.mp hlast
    refine ⟨a, ⟨?_, fun other hother hbelow => ?_, ?_⟩, rfl⟩
    · rw [← hf]
      exact h.le
    · rw [← hf, ← hf a]
      rw [← hf] at hbelow
      exact h.greatest (f other) (List.mem_map_of_mem hother) hbelow
    · rwa [hf] at ha
  · rintro ⟨a, h, rfl⟩
    refine ⟨?_, fun other hother hbelow => ?_, ?_⟩
    · rw [hf]
      exact h.le
    · obtain ⟨item, hitem, rfl⟩ := List.mem_map.mp hother
      rw [hf] at hbelow
      rw [hf, hf]
      exact h.greatest item hitem hbelow
    · rw [hfilter, List.getLast?_map, hf, h.last, Option.map_some]

/-! ### Stable sorts -/

theorem stablySorted_mergeSort (items : List α) :
    StablySorted address (items.mergeSort fun a b => decide (address a ≤ address b)) items := by
  have htrans : ∀ a b c, decide (address a ≤ address b) = true →
      decide (address b ≤ address c) = true → decide (address a ≤ address c) = true := by
    intro a b c hab hbc
    exact decide_eq_true (Address.le_trans (of_decide_eq_true hab) (of_decide_eq_true hbc))
  have htotal : ∀ a b, (decide (address a ≤ address b) || decide (address b ≤ address a)) = true := by
    intro a b
    rcases Address.le_total (address a) (address b) with h | h <;> simp [h]
  refine ⟨List.mergeSort_perm items _, ?_, fun a => ?_⟩
  · exact (List.pairwise_mergeSort htrans htotal items).imp of_decide_eq_true
  · -- Two items at one address are in order whichever comes first.
    refine filter_mergeSort htrans htotal (fun x y hx hy => ?_) items
    rw [of_decide_eq_true hx, of_decide_eq_true hy]
    exact decide_eq_true (UInt64.le_refl _)

theorem StablySorted.filter (h : StablySorted address sorted original) (p : α → Bool) :
    StablySorted address (sorted.filter p) (original.filter p) := by
  refine ⟨h.perm.filter p, h.ascending.filter p, fun a => ?_⟩
  rw [List.filter_comm, h.stable, List.filter_comm]

theorem StablySorted.nearest_iff (h : StablySorted address sorted original) :
    Nearest address sorted target a ↔ Nearest address original target a := by
  constructor
  · intro hnear
    refine ⟨hnear.le, fun other hother => hnear.greatest other (h.perm.mem_iff.mpr hother), ?_⟩
    rw [← h.stable]
    exact hnear.last
  · intro hnear
    refine ⟨hnear.le, fun other hother => hnear.greatest other (h.perm.mem_iff.mp hother), ?_⟩
    rw [h.stable]
    exact hnear.last

end Items

end CallSite
