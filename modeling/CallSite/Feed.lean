import CallSite.Event

/-!
# Feeds

A feed lists the symbols and the line rows of a module, in an order of its own and before anything
is left out. Each of the two lists may break off with a fault after any number of items.
-/

namespace CallSite

structure FeedSymbol where
  id : SymbolId
  name : String
  address : Address
  isFunction : Bool
deriving DecidableEq

/-- A row says that the code at an address comes from a line, which may be any 64-bit number. -/
structure FeedRow where
  address : Address
  line : UInt64
  file : String
  container : String
deriving DecidableEq

/-- What an enumeration gives at a time: an item, or an event of its own. -/
inductive Delivery (α : Type) where
  | item (a : α)
  | note (event : Event)

structure Enumeration (α : Type) where
  deliveries : List (Delivery α)
  fault : Option FeedFault

namespace Enumeration

variable {α : Type}

/-- Delivers items and nothing else. -/
def ofItems (items : List α) : Enumeration α :=
  ⟨items.map .item, none⟩

def items (e : Enumeration α) : List α :=
  e.deliveries.filterMap fun
    | .item a => some a
    | .note _ => none

@[simp] theorem items_ofItems (items : List α) : (ofItems items).items = items := by
  rw [Enumeration.items, ofItems, List.filterMap_map]
  exact List.filterMap_some

end Enumeration

structure Feed where
  symbols : Enumeration FeedSymbol
  rows : Enumeration FeedRow

end CallSite
