import CallSite.Dwarf.Form

/-!
# Abbreviations

An entry of debug information begins with the code of an abbreviation, which lists the attributes
that follow.
-/

namespace CallSite.Dwarf

structure AttributeSpec where
  name : Nat
  form : Nat
  /-- The value, for attributes that bring none of their own. -/
  constant : Option Int

structure Abbreviation where
  code : Nat
  attributes : List AttributeSpec

namespace Abbreviation

def constantForm : Nat := 0x21

/-- The next attribute; two zeros end the list. -/
def attributeSpec : Scan (Option AttributeSpec) := do
  let name ← Scan.unsigned16
  let form ← Scan.unsigned16
  if name = 0 then do
    guard (form = 0)
    pure none
  else do
    guard (form ≠ 0)
    let constant ← if form = constantForm then some <$> Scan.signed else pure none
    pure (some ⟨name, form, constant⟩)

/-- The next abbreviation; a zero ends the table. -/
def scan : Scan (Option Abbreviation) := do
  let code ← Scan.unsigned
  if code = 0 then pure none
  else do
    let tag ← Scan.unsigned16
    guard (tag ≠ 0)
    let children ← Scan.byte
    guard (children ≤ 1)
    let attributes ← Scan.whileSome attributeSpec
    pure (some ⟨code, attributes⟩)

/-- The table at an offset; no code may occur twice. -/
def table? (section_ : Window) (offset : Nat) : Option (List Abbreviation) := do
  let rest ← section_.drop? offset
  let (table, _) ← (Scan.whileSome scan).run rest
  let codes := table.map (·.code)
  guard (codes.eraseDups.length = codes.length)
  pure table

end Abbreviation

end CallSite.Dwarf
