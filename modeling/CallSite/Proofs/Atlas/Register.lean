import CallSite.Proofs.Address
import CallSite.Proofs.Atlas.Readings
import Mathlib.Data.Option.Basic

/-!
# Atlases as plain registers

A register is what an atlas amounts to for its users: the readings of its marks in their order, and
a symbol for each identifier that has one. Where a call site lies is a matter of the register alone,
so neither the indices of names nor the order of the marks shows in an answer.
-/

namespace CallSite

structure Register where
  readings : List Reading
  symbol : SymbolId → Option Symbol

/--
The position of a call site: of the last reading that does not lie above the exact sum of the
symbol's address and the offset, if that sum is an address.
-/
def Register.locate (r : Register) (id : SymbolId) (offset : Int64) : Option Position :=
  match r.symbol id with
  | none => none
  | some s =>
      let target : Int := s.address.value.toNat + offset.toInt
      if offset = -1 ∨ target < 0 ∨ 2 ^ 64 ≤ target then none
      else
        ((r.readings.filter fun m => (m.address.value.toNat : Int) ≤ target).getLast?).map fun m =>
          ⟨m.line, m.file⟩

namespace Atlas

def register (atlas : Atlas) : Register :=
  ⟨atlas.readings, atlas.symbols.get?⟩

/-- The last mark up to an address is the last reading up to the exact sum that the address is. -/
theorem floor_map_reading (atlas : Atlas) {start target : Address} {offset : Int64}
    (h : start.shift? offset = some target) :
    (atlas.track.floor target).map atlas.reading =
      (atlas.readings.filter fun r =>
        (r.address.value.toNat : Int) ≤ start.value.toNat + offset.toInt).getLast? := by
  rw [Track.floor_eq, readings, List.filter_map, List.getLast?_map]
  congr 2
  apply List.filter_congr
  intro m _
  exact decide_eq_decide.mpr (Address.le_shift?_iff h m.address)

theorem locate_eq (atlas : Atlas) (id : SymbolId) (offset : Int64) :
    atlas.locate id offset = atlas.register.locate id offset := by
  have hsymbol : atlas.register.symbol id = atlas.symbols.get? id := rfl
  have hreadings : atlas.register.readings = atlas.readings := rfl
  rw [locate, Register.locate, hsymbol, hreadings]
  cases atlas.symbols.get? id with
  | none => rfl
  | some s =>
      simp only [Option.bind_eq_bind, Option.bind_some]
      by_cases hoffset : offset = unknownOffset
      · have hrange : offset = -1 := hoffset
        rw [guard, if_neg (not_not_intro hoffset), if_pos (.inl hrange)]
        rfl
      · have hrange : offset ≠ -1 := hoffset
        rw [guard, if_pos hoffset]
        cases htarget : s.address.shift? offset with
        | none =>
            rw [if_pos (.inr (Address.shift?_eq_none.mp htarget))]
            rfl
        | some target =>
            have hin : ¬ ((s.address.value.toNat : Int) + offset.toInt < 0 ∨
                2 ^ 64 ≤ (s.address.value.toNat : Int) + offset.toInt) := by
              rw [← Address.shift?_eq_none, htarget]
              simp
            rw [if_neg (not_or.mpr ⟨hrange, hin⟩), ← floor_map_reading atlas htarget,
              Option.map_map]
            simp only [Option.pure_def, Option.bind_some]
            cases atlas.track.floor target <;> rfl

end Atlas

end CallSite
