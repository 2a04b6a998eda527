import CallSite.Image
import CallSite.Proofs.Dwarf.Rows
import CallSite.Proofs.Object.Tables

/-!
# Symbols that are listed

The symbols of an image come from one of its two tables: the static one if an entry of it has a name,
and the dynamic one otherwise. Each entry of that table with a name is listed once, in its turn, and
is identified by its place. So no two symbols that are listed have one identifier.
-/

namespace CallSite

/-- The name of an entry can be read and is not empty. -/
def ObjectSymbol.Named (e : ObjectSymbol) : Prop :=
  ∃ name, e.name = some name ∧ name ≠ ""

instance (e : ObjectSymbol) : Decidable e.Named :=
  match h : e.name with
  | none => isFalse fun ⟨_, hname, _⟩ => nomatch h.symm.trans hname
  | some name =>
      decidable_of_iff (name ≠ "") ⟨fun hne => ⟨name, h, hne⟩, fun ⟨_, hname, hne⟩ =>
        Option.some.inj (h.symm.trans hname) ▸ hne⟩

/-- A symbol is listed for an entry: identified by its place, under what its name stands for. -/
structure FeedSymbol.ListedFor (s : FeedSymbol) (e : ObjectSymbol) : Prop where
  id_eq : s.id.value.toNat = e.index
  name_eq : ∃ name, e.name = some name ∧ s.name = Demangle.demangle name
  address_eq : s.address = ⟨e.address⟩
  isFunction_eq : s.isFunction = e.isFunction

namespace ObjectFile

/-- The table that symbols are listed from. -/
def listedTable (file : ObjectFile) : List ObjectSymbol :=
  if ∃ e ∈ file.symbols, e.Named then file.symbols else file.dynamicSymbols

theorem TablesNumbered.listedTable {file : ObjectFile} (h : file.TablesNumbered) :
    Numbered file.listedTable := by
  rw [ObjectFile.listedTable]
  split
  · exact h.static
  · exact h.dynamic

/-! ### One entry -/

theorem listed_isSome_iff (e : ObjectSymbol) : (listed e).isSome ↔ e.Named := by
  rw [listed, ObjectSymbol.Named]
  cases e.name with
  | none => simp
  | some name => by_cases hname : name = "" <;> simp [hname]

theorem listedFor_of_listed {e : ObjectSymbol} {s : FeedSymbol} (h : listed e = some s)
    (hindex : e.index < UInt64.size) : s.ListedFor e := by
  rw [listed] at h
  split at h
  case h_1 name hname =>
    split at h
    · cases h
    · cases h
      exact ⟨UInt64.toNat_ofNat_of_lt' hindex, ⟨name, hname, rfl⟩, rfl, rfl⟩
  case h_2 => cases h

/-! ### One table -/

/-- Entries are listed in their turn, and those without a name are not. -/
theorem forall₂_filterMap_listed {entries : List ObjectSymbol}
    (h : ∀ e ∈ entries, e.index < UInt64.size) :
    List.Forall₂ FeedSymbol.ListedFor (entries.filterMap listed)
      (entries.filter fun e => e.Named) := by
  induction entries with
  | nil => exact .nil
  | cons e entries ih =>
    obtain ⟨he, hentries⟩ := List.forall_mem_cons.mp h
    cases hlisted : listed e with
    | none =>
      have hnot : ¬ e.Named := by
        rw [← listed_isSome_iff, hlisted]
        decide
      rw [List.filterMap_cons_none hlisted, List.filter_cons_of_neg (by simpa using hnot)]
      exact ih hentries
    | some s =>
      have hnamed : e.Named := by
        rw [← listed_isSome_iff, hlisted]
        rfl
      rw [List.filterMap_cons_some hlisted, List.filter_cons_of_pos (by simpa using hnamed)]
      exact .cons (listedFor_of_listed hlisted he) (ih hentries)

theorem isEmpty_filterMap_listed (entries : List ObjectSymbol) :
    (entries.filterMap listed).isEmpty ↔ ¬ ∃ e ∈ entries, e.Named := by
  rw [List.isEmpty_iff, List.filterMap_eq_nil_iff]
  simp only [← listed_isSome_iff, Option.isSome_iff_ne_none, not_exists, not_and, not_not]

end ObjectFile

/-! ### The symbols of an image -/

namespace Image

variable (image : Image)

theorem items_symbols : image.symbols.items = image.file.listedTable.filterMap ObjectFile.listed := by
  rw [symbols, ObjectFile.symbolListing, ObjectFile.listedTable]
  by_cases hempty : (image.file.symbols.filterMap ObjectFile.listed).isEmpty
  · rw [if_pos hempty, if_neg ((ObjectFile.isEmpty_filterMap_listed _).mp hempty)]
    simp [Enumeration.items]
  · rw [if_neg hempty, if_pos (not_not.mp (mt (ObjectFile.isEmpty_filterMap_listed _).mpr hempty))]
    simp [Enumeration.items]

/-- Besides its symbols an image tells which table they are from, and how many they are. -/
theorem note_mem_symbols {event : Event} (h : .note event ∈ image.symbols.deliveries) :
    event = .noStaticSymbols image.path ∨ ∃ count, event = .symbolsListed count := by
  rw [symbols, ObjectFile.symbolListing] at h
  split at h
  · have hevent : event = .noStaticSymbols image.path ∨
        event = .symbolsListed (image.file.dynamicSymbols.filterMap ObjectFile.listed).length := by
      simpa using h
    exact hevent.imp_right fun hcount => ⟨_, hcount⟩
  · have hevent :
        event = .symbolsListed (image.file.symbols.filterMap ObjectFile.listed).length := by
      simpa using h
    exact .inr ⟨_, hevent⟩

end Image

end CallSite
