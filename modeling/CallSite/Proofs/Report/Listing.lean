import CallSite.Proofs.Stable
import CallSite.Proofs.Text.ByteOrder
import CallSite.Report

/-!
# The order of a report

The symbols of an atlas are listed by qualified name and then by identifier, its marks by file, line
and address, and marks that agree in all three as the track has them. Texts are in the order of their
bytes.
-/

namespace CallSite.Report

open Bytes (ofText)

variable (atlas : Atlas)

/-! ### Qualified names -/

/-- The name of a symbol behind the object that the first mark at its address belongs to. -/
inductive Qualified (s : Symbol) : String → Prop where
  | object {front back : List Mark} {m : Mark} (hmarks : atlas.track.marks.toList = front ++ m :: back)
      (hm : m.address = s.address) (hfront : ∀ earlier ∈ front, earlier.address ≠ s.address)
      (hobject : atlas.object m ≠ "") : Qualified s (atlas.object m ++ "." ++ s.name)
  | nameless {front back : List Mark} {m : Mark}
      (hmarks : atlas.track.marks.toList = front ++ m :: back) (hm : m.address = s.address)
      (hfront : ∀ earlier ∈ front, earlier.address ≠ s.address) (hobject : atlas.object m = "") :
      Qualified s s.name
  | unmarked (h : ∀ m ∈ atlas.track.marks.toList, m.address ≠ s.address) : Qualified s s.name

theorem qualified_qualifiedName (s : Symbol) : Qualified atlas s (qualifiedName atlas s) := by
  rw [qualifiedName, objectAt]
  cases hfind : atlas.track.marks.toList.find? (·.address = s.address) with
  | none =>
      refine .unmarked fun m hm heq => ?_
      simpa [heq] using List.find?_eq_none.mp hfind m hm
  | some m =>
      obtain ⟨hm, front, back, hmarks, hfront⟩ := List.find?_eq_some_iff_append.mp hfind
      have hm : m.address = s.address := of_decide_eq_true hm
      have hfront : ∀ earlier ∈ front, earlier.address ≠ s.address := fun earlier hearlier => by
        simpa using hfront earlier hearlier
      by_cases hobject : atlas.object m = ""
      · simpa [hobject] using Qualified.nameless hmarks hm hfront hobject
      · simpa [hobject] using Qualified.object hmarks hm hfront hobject

/-! ### Symbols -/

/-- All symbols of an atlas, each once, by the bytes of their qualified names and then by identifier. -/
structure SymbolListing (symbols : List Symbol) : Prop where
  perm : symbols.Perm atlas.symbols.entries
  ordered : symbols.Pairwise fun a b =>
    ofText (qualifiedName atlas a) < ofText (qualifiedName atlas b) ∨
      qualifiedName atlas a = qualifiedName atlas b ∧ a.id.value < b.id.value

/-- The symbols by qualified name; the names need not be sorted with them. -/
def sortedSymbols : List Symbol :=
  atlas.symbols.entries.mergeSort fun a b => decide (qualifiedName atlas a ≤ qualifiedName atlas b)

theorem symbolRows_eq :
    symbolRows atlas = (sortedSymbols atlas).map fun s => (qualifiedName atlas s, s) := by
  let byName (a b : String × Symbol) : Bool := decide (a.1 ≤ b.1)
  exact (List.map_mergeSort (s := byName) fun _ _ _ _ => rfl).symm

theorem symbolListing_sortedSymbols : SymbolListing atlas (sortedSymbols atlas) := by
  refine ⟨List.mergeSort_perm _ _, ?_⟩
  let byName (a b : Symbol) : Bool := decide (qualifiedName atlas a ≤ qualifiedName atlas b)
  have htrans (a b c : Symbol) (hab : byName a b) (hbc : byName b c) : byName a c :=
    decide_eq_true (String.le_trans (of_decide_eq_true hab) (of_decide_eq_true hbc))
  have htotal (a b : Symbol) : byName a b || byName b a := by
    simpa [byName] using String.le_total (qualifiedName atlas a) (qualifiedName atlas b)
  have hordered := pairwise_mergeSort_of_pairwise htrans htotal atlas.symbols.ascending
  refine hordered.imp fun {a b} ⟨hle, hid⟩ => ?_
  by_cases hge : qualifiedName atlas b ≤ qualifiedName atlas a
  · exact .inr ⟨String.le_antisymm (of_decide_eq_true hle) hge, hid (decide_eq_true hge)⟩
  · exact .inl (Bytes.ofText_lt_iff.mpr (String.not_le.mp hge))

/-- No two symbols are listed alike, so they can be listed in one order only. -/
theorem SymbolListing.unique {symbols others : List Symbol} (h : SymbolListing atlas symbols)
    (hothers : SymbolListing atlas others) : symbols = others := by
  refine (h.perm.trans hothers.perm.symm).eq_of_pairwise (fun a b _ _ hab hba => ?_)
    h.ordered hothers.ordered
  simp only [Bytes.ofText_lt_iff] at hab hba
  rcases hab with hlt | ⟨hname, hid⟩ <;> rcases hba with hgt | ⟨hname', hid'⟩
  · exact absurd hgt (String.lt_asymm hlt)
  · exact absurd hname' (String.ne_of_lt hlt).symm
  · exact absurd hname (String.ne_of_lt hgt).symm
  · exact absurd hid' (UInt64.lt_asymm hid)

/-! ### Marks -/

/-- File before line before address. -/
def Precedes (a b : Mark) : Prop :=
  ofText (atlas.file a) < ofText (atlas.file b) ∨
    atlas.file a = atlas.file b ∧ (a.line < b.line ∨ a.line = b.line ∧ a.address ≤ b.address)

/-- All marks of an atlas, each as often as its track has it, by the bytes of their files, then by line
and then by address; those that agree in all three are in the order of the track. -/
structure MarkListing (marks : List Mark) : Prop where
  perm : marks.Perm atlas.track.marks.toList
  ordered : marks.Pairwise (Precedes atlas)
  stable : ∀ file line address,
    marks.filter (fun m => atlas.file m = file ∧ m.line = line ∧ m.address = address) =
      atlas.track.marks.toList.filter
        fun m => atlas.file m = file ∧ m.line = line ∧ m.address = address

theorem marksInOrder_iff {a b : Mark} : marksInOrder atlas a b = true ↔ Precedes atlas a b := by
  rw [marksInOrder, Precedes, Bytes.ofText_lt_iff]
  by_cases hfile : atlas.file a = atlas.file b
  · by_cases hline : a.line = b.line
    · simp [hfile, hline, UInt32.lt_irrefl]
    · have hlt : a.line ≤ b.line ↔ a.line < b.line := by
        rw [UInt32.le_iff_lt_or_eq]
        exact or_iff_left hline
      simp [hfile, hline, hlt]
  · have hlt : atlas.file a ≤ atlas.file b ↔ atlas.file a < atlas.file b := by
      refine ⟨fun hle => String.not_le.mp fun hge => hfile (String.le_antisymm hle hge), fun hlt => ?_⟩
      exact String.not_lt.mp (String.lt_asymm hlt)
    simp [hfile, hlt]

theorem Precedes.trans {a b c : Mark} (hab : Precedes atlas a b) (hbc : Precedes atlas b c) :
    Precedes atlas a c := by
  rcases hab with hab | ⟨hfile, hab⟩
  · rcases hbc with hbc | ⟨hfile', -⟩
    · exact .inl (List.lt_trans hab hbc)
    · exact .inl (hfile' ▸ hab)
  · rcases hbc with hbc | ⟨hfile', hbc⟩
    · exact .inl (hfile ▸ hbc)
    · refine .inr ⟨hfile.trans hfile', ?_⟩
      rcases hab with hab | ⟨hline, hab⟩
      · rcases hbc with hbc | ⟨hline', -⟩
        · exact .inl (UInt32.lt_trans hab hbc)
        · exact .inl (hline' ▸ hab)
      · rcases hbc with hbc | ⟨hline', hbc⟩
        · exact .inl (hline ▸ hbc)
        · exact .inr ⟨hline.trans hline', UInt64.le_trans hab hbc⟩

theorem precedes_total (a b : Mark) : Precedes atlas a b ∨ Precedes atlas b a := by
  by_cases hfile : atlas.file a = atlas.file b
  · by_cases hline : a.line = b.line
    · rcases UInt64.le_total a.address.value b.address.value with hle | hle
      · exact .inl (.inr ⟨hfile, .inr ⟨hline, hle⟩⟩)
      · exact .inr (.inr ⟨hfile.symm, .inr ⟨hline.symm, hle⟩⟩)
    · rcases UInt32.le_total a.line b.line with hle | hle
      · exact .inl (.inr ⟨hfile, .inl (UInt32.lt_of_le_of_ne hle hline)⟩)
      · exact .inr (.inr ⟨hfile.symm, .inl (UInt32.lt_of_le_of_ne hle (Ne.symm hline))⟩)
  · rw [Precedes, Precedes, Bytes.ofText_lt_iff, Bytes.ofText_lt_iff]
    by_cases hle : atlas.file a ≤ atlas.file b
    · exact .inl (.inl (String.not_le.mp fun hge => hfile (String.le_antisymm hle hge)))
    · exact .inr (.inl (String.not_le.mp hle))

theorem markListing_sortedMarks : MarkListing atlas (sortedMarks atlas) := by
  have htrans : ∀ a b c, marksInOrder atlas a b = true → marksInOrder atlas b c = true →
      marksInOrder atlas a c = true := by
    intro a b c
    rw [marksInOrder_iff, marksInOrder_iff, marksInOrder_iff]
    exact Precedes.trans atlas
  have htotal : ∀ a b, (marksInOrder atlas a b || marksInOrder atlas b a) = true := by
    intro a b
    rw [Bool.or_eq_true, marksInOrder_iff, marksInOrder_iff]
    exact precedes_total atlas a b
  refine ⟨List.mergeSort_perm _ _, ?_, fun file line address => ?_⟩
  · exact (List.pairwise_mergeSort htrans htotal _).imp (marksInOrder_iff atlas).mp
  · refine filter_mergeSort htrans htotal (fun a b ha hb => ?_) _
    obtain ⟨hfile, hline, haddress⟩ := of_decide_eq_true ha
    obtain ⟨hfile', hline', haddress'⟩ := of_decide_eq_true hb
    rw [marksInOrder_iff]
    refine .inr ⟨hfile.trans hfile'.symm, .inr ⟨hline.trans hline'.symm, ?_⟩⟩
    rw [haddress, haddress']
    exact UInt64.le_refl _

/-- Marks of which no two agree in file, line and address can be listed in one order only. -/
theorem sortedMarks_eq {atlas : Atlas} {marks : List Mark}
    (hperm : marks.Perm atlas.track.marks.toList)
    (hstrict : marks.Pairwise fun a b =>
      marksInOrder atlas a b = true ∧ ¬ marksInOrder atlas b a = true) :
    sortedMarks atlas = marks := by
  have hlisting := markListing_sortedMarks atlas
  have hnot {a b : Mark} (h : ¬ marksInOrder atlas b a = true) : ¬ Precedes atlas b a :=
    fun hba => h ((marksInOrder_iff atlas).mpr hba)
  have hantisymm : ∀ a ∈ marks, ∀ b ∈ marks, Precedes atlas a b → Precedes atlas b a → a = b :=
    List.Pairwise.forall_of_forall_of_flip (fun _ _ _ _ => rfl)
      (hstrict.imp fun h _ hba => absurd hba (hnot h.2))
      (hstrict.imp fun h hba _ => absurd hba (hnot h.2))
  have hsame : (sortedMarks atlas).Perm marks := hlisting.perm.trans hperm.symm
  exact hsame.eq_of_pairwise (fun a b ha hb => hantisymm a (hsame.mem_iff.mp ha) b hb)
    hlisting.ordered (hstrict.imp fun h => (marksInOrder_iff atlas).mp h.1)

end CallSite.Report
