import CallSite.Proofs.Atlas.Latest
import CallSite.Proofs.Blob.RoundTrip
import CallSite.Report

/-!
# Documents do not depend on the order of symbols

Symbols come in any order and replace each other, but what is stored and reported of them depends on
the latest of each identifier alone. Conversely, a document tells these symbols apart: atlases with
one document are equal.
-/

namespace CallSite

namespace Document

/-- Two atlases with one document are equal. -/
theorem eq_of_write_eq {a b : Atlas} (ha : a.Addressable) (hb : b.Addressable) {version : UInt32}
    (h : write version a = write version b) : a = b := by
  obtain ⟨raw, hread, -, rfl⟩ := read?_write ha version
  obtain ⟨other, hother, -, rfl⟩ := read?_write hb version
  rw [h, hother] at hread
  cases hread
  rfl

end Document

namespace SymbolIndex

/-- What is stored and reported is the same of both indices, whatever marks and names there are. -/
structure AlikeStored (a b : SymbolIndex) : Prop where
  entries_eq : a.entries = b.entries
  write_eq : ∀ version track pool,
    Document.write version ⟨a, track, pool⟩ = Document.write version ⟨b, track, pool⟩
  render_eq : ∀ track pool, Report.render ⟨a, track, pool⟩ = Report.render ⟨b, track, pool⟩

/--
Symbols that are put in turn into an empty index make it the map of the latest symbol of each
identifier, in the order of the identifiers, and each insertion gives back the one that it replaces:
the latest before it with its identifier. Other symbols make an equal index just if they have the same
latest ones; then all that is stored and reported is the same, and a document that is the same says
that they have.
-/
theorem ofList_latest (symbols : List Symbol) :
    (ofList symbols).HasLatest symbols ∧
      empty.insertAll symbols =
        (ofList symbols, symbols.mapIdx fun i s => latest? (symbols.take i) s.id) ∧
      (∀ s, ∃ others, (ofList symbols).Replaces (ofList (symbols ++ [s])) s
        ((ofList symbols).insert s).2 others) ∧
      ∀ others : List Symbol,
        (ofList symbols = ofList others ↔ ∀ id, latest? symbols id = latest? others id) ∧
        ((∀ id, latest? symbols id = latest? others id) →
          (ofList symbols).AlikeStored (ofList others)) ∧
        ∀ version track pool, Atlas.Addressable ⟨ofList symbols, track, pool⟩ →
          Atlas.Addressable ⟨ofList others, track, pool⟩ →
          Document.write version ⟨ofList symbols, track, pool⟩ =
            Document.write version ⟨ofList others, track, pool⟩ →
          ∀ id, latest? symbols id = latest? others id := by
  refine ⟨hasLatest_ofList symbols, insertAll_ofList [] symbols, fun s => ?_, fun others =>
    ⟨ofList_eq_iff, fun hlatest => ?_, fun version track pool haddressable hother hdocument => ?_⟩⟩
  · rw [ofList_append_singleton]
    exact ⟨_, replaces_insert _ s⟩
  · rw [ofList_eq_iff.mpr hlatest]
    exact ⟨rfl, fun _ _ _ => rfl, fun _ _ => rfl⟩
  · have hatlas := Document.eq_of_write_eq haddressable hother hdocument
    exact ofList_eq_iff.mp (congrArg Atlas.symbols hatlas)

/-! ### Symbols in two orders -/

def replacingSymbols : List Symbol :=
  [⟨⟨9⟩, "far", ⟨16⟩⟩, ⟨⟨7⟩, "old", ⟨16⟩⟩, ⟨⟨8⟩, "data", ⟨64⟩⟩, ⟨⟨7⟩, "main", ⟨16⟩⟩]

def orderedSymbols : List Symbol :=
  [⟨⟨7⟩, "main", ⟨16⟩⟩, ⟨⟨8⟩, "older", ⟨16⟩⟩, ⟨⟨8⟩, "data", ⟨64⟩⟩, ⟨⟨9⟩, "far", ⟨16⟩⟩]

theorem ofList_latest_replacing :
    (empty.insertAll replacingSymbols).2 = [none, none, none, some ⟨⟨7⟩, "old", ⟨16⟩⟩] ∧
      (empty.insertAll replacingSymbols).1.entries =
        [⟨⟨7⟩, "main", ⟨16⟩⟩, ⟨⟨8⟩, "data", ⟨64⟩⟩, ⟨⟨9⟩, "far", ⟨16⟩⟩] ∧
      (ofList replacingSymbols).get? ⟨7⟩ = some ⟨⟨7⟩, "main", ⟨16⟩⟩ ∧
      (ofList replacingSymbols).at? ⟨16⟩ = some ⟨⟨7⟩, "main", ⟨16⟩⟩ ∧
      (ofList replacingSymbols).at? ⟨32⟩ = none ∧
      (∀ id, latest? replacingSymbols id = latest? orderedSymbols id) ∧
      (ofList replacingSymbols).AlikeStored (ofList orderedSymbols) := by
  obtain ⟨hlatest, hinserted, -, hothers⟩ := ofList_latest replacingSymbols
  obtain ⟨hsame, halike, -⟩ := hothers orderedSymbols
  have hids := hsame.mp (by decide)
  refine ⟨?_, ?_, ?_, ?_, ?_, hids, halike hids⟩
  · rw [hinserted]
    rfl
  · rw [hinserted]
    rfl
  · rw [hlatest.get?_eq]
    rfl
  · decide
  · decide

end SymbolIndex

end CallSite
