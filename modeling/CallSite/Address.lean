import CallSite.Text.Numeral

/-!
# Addresses and symbol identifiers

An address is a position in the code of one module, a symbol identifier a number that is unique in
it. A call site is a symbol together with a signed offset into its code.
-/

namespace CallSite

structure Address where
  value : UInt64
deriving DecidableEq, Inhabited

namespace Address

instance : LE Address := ⟨fun a b => a.value ≤ b.value⟩

instance (a b : Address) : Decidable (a ≤ b) :=
  inferInstanceAs (Decidable (a.value ≤ b.value))

/-- The address at a signed distance, if the exact sum is an address. -/
def shift? (a : Address) (offset : Int64) : Option Address :=
  let target := (a.value.toNat : Int) + offset.toInt
  if 0 ≤ target ∧ target < UInt64.size then some ⟨UInt64.ofNat target.toNat⟩ else none

/-- At least eight lower-case hexadecimal digits after `0x`. -/
def text (a : Address) : String :=
  "0x" ++ Text.padLeft '0' 8 (Text.lowerHex a.value.toNat)

end Address

structure SymbolId where
  value : UInt64
deriving DecidableEq, Inhabited

/-- Upper-case hexadecimal digits, without padding. -/
def SymbolId.text (id : SymbolId) : String :=
  Text.upperHex id.value.toNat

/-- The offset that stands for an unknown position in the code of a symbol. -/
def unknownOffset : Int64 := -1

end CallSite
