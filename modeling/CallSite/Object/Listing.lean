import CallSite.Demangle.Basic
import CallSite.Feed
import CallSite.Object.Basic

/-!
# Listing the symbols of an image

The symbols of the static table, or those of the dynamic one if no static symbol has a name. A
symbol is identified by its place in its table.
-/

namespace CallSite.ObjectFile

/-- Symbols without a name, or with one that cannot be read, are left out. -/
def listed (s : ObjectSymbol) : Option FeedSymbol :=
  match s.name with
  | some name =>
      if name.isEmpty then none
      else some ⟨⟨UInt64.ofNat s.index⟩, Demangle.demangle name, ⟨s.address⟩, s.isFunction⟩
  | none => none

/-- The symbols of one table, in their order. -/
def symbolListing (path : String) (staticTable dynamicTable : List ObjectSymbol) :
    Enumeration FeedSymbol :=
  let found := staticTable.filterMap listed
  if found.isEmpty then
    let found := dynamicTable.filterMap listed
    ⟨.note (.noStaticSymbols path) :: found.map .item ++ [.note (.symbolsListed found.length)], none⟩
  else ⟨found.map .item ++ [.note (.symbolsListed found.length)], none⟩

end CallSite.ObjectFile
