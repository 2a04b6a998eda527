import CallSite.Proofs.Atlas.Symbols
import CallSite.Proofs.Nearest
import CallSite.Proofs.Report.Sections
import Mathlib.Data.List.Induction

/-!
# The symbols that rows are given to

A row of the report is given to the symbol that began last in the listing, which goes by file and line,
and the rows that follow are given to it as well until another begins. The nearest symbol that begins at
a mark up to the address of a row may be another one: they are the same exactly if none begins between
the last start in the listing and the row. In a listing that follows the code they are the same for
every row.
-/

namespace CallSite.Report

variable (atlas : Atlas)

/-- A symbol at whose address a mark lies. -/
def Begins (s : Symbol) : Prop :=
  s ∈ atlas.symbols.entries ∧ ∃ m ∈ atlas.track.marks.toList, m.address = s.address

/-- The symbol at the last of some marks at which any is, and the one of smallest identifier if there are
several at that mark. -/
inductive Carried (marks : List Mark) : Option Symbol → Prop where
  | symbol {front back : List Mark} {m : Mark} {s : Symbol} (hmarks : marks = front ++ m :: back)
      (hs : s ∈ atlas.symbols.entries) (haddress : s.address = m.address)
      (hleast : ∀ t ∈ atlas.symbols.entries, t.address = m.address → s.id.value ≤ t.id.value)
      (hback : ∀ n ∈ back, ∀ t ∈ atlas.symbols.entries, t.address ≠ n.address) :
      Carried marks (some s)
  | none (h : ∀ m ∈ marks, ∀ t ∈ atlas.symbols.entries, t.address ≠ m.address) : Carried marks none

/-- The nearest symbol that begins up to an address, and the one of smallest identifier if there are
several. -/
inductive Owner (address : Address) : Option Symbol → Prop where
  | symbol {s : Symbol} (hs : Begins atlas s) (hle : s.address ≤ address)
      (hnearest : ∀ t, Begins atlas t → t.address ≤ address → t.address ≤ s.address)
      (hleast : ∀ t, Begins atlas t → t.address = s.address → s.id.value ≤ t.id.value) :
      Owner address (some s)
  | none (h : ∀ t, Begins atlas t → ¬ t.address ≤ address) : Owner address none

/-- Some symbol begins at the mark. -/
def isStart (m : Mark) : Bool :=
  (atlas.symbols.at? m.address).isSome

/-- No symbol begins between a mark and an address above it, or, without a mark, up to the address. -/
inductive Leads (address : Address) : Option Mark → Prop where
  | mark {start : Mark} (hle : start.address ≤ address)
      (hnearest : ∀ t, Begins atlas t → t.address ≤ address → t.address ≤ start.address) :
      Leads address (some start)
  | none (h : ∀ t, Begins atlas t → ¬ t.address ≤ address) : Leads address none

/-! ### The symbol that is current at a row -/

/-- A mark carries on what is current before it, unless a symbol is at it. -/
theorem Carried.append {marks : List Mark} {owner : Option Symbol} (h : Carried atlas marks owner)
    (m : Mark) : Carried atlas (marks ++ [m]) ((atlas.symbols.at? m.address).or owner) := by
  cases hat : atlas.symbols.at? m.address with
  | some s =>
      obtain ⟨hs, haddress, hleast⟩ := SymbolIndex.at?_eq_some_iff.mp hat
      exact .symbol rfl hs haddress hleast (by simp)
  | none =>
      have hnot := SymbolIndex.at?_eq_none_iff.mp hat
      cases h with
      | @symbol front back start s hmarks hs haddress hleast hback =>
          have hlater : ∀ n ∈ back ++ [m], ∀ t ∈ atlas.symbols.entries, t.address ≠ n.address := by
            intro n hn
            rcases List.mem_append.mp hn with hn | hn
            · exact hback n hn
            · rw [List.mem_singleton.mp hn]
              exact hnot
          exact .symbol (by rw [hmarks, List.append_assoc, List.cons_append]) hs haddress hleast hlater
      | none h =>
          refine .none fun n hn => ?_
          rcases List.mem_append.mp hn with hn | hn
          · exact h n hn
          · rw [List.mem_singleton.mp hn]
            exact hnot

theorem carried_getLast? (marks : List Mark) :
    Carried atlas marks (marks.filterMap fun m => atlas.symbols.at? m.address).getLast? := by
  induction marks using List.reverseRecOn with
  | nil => exact .none (by simp)
  | append_singleton marks m ih =>
      have hlast := ih.append atlas m
      rw [List.filterMap_append]
      cases hat : atlas.symbols.at? m.address <;> simpa [hat] using hlast

theorem getLast?_filterMap_at? (marks : List Mark) :
    (marks.filterMap fun m => atlas.symbols.at? m.address).getLast? =
      (marks.filter (isStart atlas)).getLast?.bind fun m => atlas.symbols.at? m.address := by
  induction marks using List.reverseRecOn with
  | nil => rfl
  | append_singleton marks m ih =>
      rw [List.filterMap_append, List.filter_append]
      cases hat : atlas.symbols.at? m.address with
      | none => simpa [isStart, hat] using ih
      | some s => simp [isStart, hat]

theorem address_le_getLast? {marks : List Mark} {last : Mark}
    (hascending : marks.Pairwise fun a b => a.address ≤ b.address) (h : marks.getLast? = some last) :
    ∀ m ∈ marks, m.address ≤ last.address := by
  obtain ⟨init, rfl⟩ := List.getLast?_eq_some_iff.mp h
  intro m hm
  rcases List.mem_append.mp hm with hm | hm
  · exact (List.pairwise_append.mp hascending).2.2 m hm last (by simp)
  · rw [List.mem_singleton.mp hm]
    exact UInt64.le_refl _

section Row

variable {atlas} {front back : List (Mark × Option Symbol)} {m : Mark} {owner : Option Symbol}
  (h : ownedMarks atlas = front ++ (m, owner) :: back)
include h

/-- A row shows what the rows up to it carry. -/
theorem carried_owner : Carried atlas (front.map Prod.fst ++ [m]) owner := by
  rw [owner_of_withOwners h, Option.or_none]
  exact carried_getLast? atlas _

/-- The last start among the rows up to a row decides what is current there. -/
theorem owner_eq :
    owner = ((front.map Prod.fst ++ [m]).filter (isStart atlas)).getLast?.bind
      fun start => atlas.symbols.at? start.address := by
  rw [owner_of_withOwners h, Option.or_none, getLast?_filterMap_at?]

theorem mem_marks_of_row {n : Mark} (hn : n ∈ front.map Prod.fst ++ [m]) :
    n ∈ atlas.track.marks.toList := by
  have hmarks : (ownedMarks atlas).map Prod.fst = sortedMarks atlas := map_fst_withOwners _ _ _
  rw [← (markListing_sortedMarks atlas).perm.mem_iff, ← hmarks, h]
  simp only [List.map_append, List.map_cons, List.mem_append, List.mem_cons] at hn ⊢
  tauto

/-- A row shows the nearest symbol up to its address exactly if the last start up to it leads there. -/
theorem owner_iff_leads :
    Owner atlas m.address owner ↔
      Leads atlas m.address ((front.map Prod.fst ++ [m]).filter (isStart atlas)).getLast? := by
  have howner := owner_eq h
  cases hstart : ((front.map Prod.fst ++ [m]).filter (isStart atlas)).getLast? with
  | none =>
      rw [hstart, Option.bind_none] at howner
      subst howner
      constructor
      · rintro ⟨⟩
        exact .none ‹_›
      · rintro ⟨⟩
        exact .none ‹_›
  | some start =>
      have hmem := List.mem_filter.mp (List.mem_of_getLast? hstart)
      obtain ⟨s, hs⟩ := Option.isSome_iff_exists.mp hmem.2
      rw [hstart, Option.bind_some, hs] at howner
      subst howner
      obtain ⟨hentry, haddress, hleast⟩ := SymbolIndex.at?_eq_some_iff.mp hs
      have hbegins : Begins atlas s := ⟨hentry, start, mem_marks_of_row h hmem.1, haddress.symm⟩
      constructor
      · intro howner
        cases howner with
        | symbol _ hle hnearest _ =>
            rw [haddress] at hle
            refine .mark hle fun t ht hbelow => ?_
            rw [← haddress]
            exact hnearest t ht hbelow
      · intro hleads
        cases hleads with
        | mark hle hnearest =>
            refine .symbol hbegins (by rwa [haddress]) (fun t ht hbelow => ?_) fun t ht heq => ?_
            · rw [haddress]
              exact hnearest t ht hbelow
            · exact hleast t ht.1 (heq.trans haddress)

variable (hascending : ((ownedMarks atlas).map Prod.fst).Pairwise fun a b => a.address ≤ b.address)
include hascending

/-- A symbol that begins up to the address of a row begins at one of the rows up to it. -/
theorem exists_start {t : Symbol} (ht : Begins atlas t) (hbelow : t.address ≤ m.address) :
    ∃ n ∈ (front.map Prod.fst ++ [m]).filter (isStart atlas), n.address = t.address := by
  obtain ⟨hentry, n, hn, haddress⟩ := ht
  have hstart (n : Mark) (heq : n.address = t.address) : isStart atlas n = true := by
    rw [isStart, Option.isSome_iff_ne_none, Ne, SymbolIndex.at?_eq_none_iff]
    exact fun hnone => hnone t hentry heq.symm
  have hmarks : (ownedMarks atlas).map Prod.fst = sortedMarks atlas := map_fst_withOwners _ _ _
  rw [← (markListing_sortedMarks atlas).perm.mem_iff, ← hmarks] at hn
  rw [h, List.map_append, List.map_cons] at hn hascending
  rcases List.mem_append.mp hn with hn | hn
  · exact ⟨n, List.mem_filter.mpr ⟨List.mem_append_left _ hn, hstart n haddress⟩, haddress⟩
  · -- A row at the same address that comes later is no better than the row itself.
    have hle : m.address ≤ n.address := by
      rcases List.mem_cons.mp hn with rfl | hn
      · exact UInt64.le_refl _
      · exact List.rel_of_pairwise_cons (List.pairwise_append.mp hascending).2.1 hn
    have heq : m.address = t.address := Address.le_antisymm (haddress ▸ hle) hbelow
    exact ⟨m, List.mem_filter.mpr ⟨by simp, hstart m heq⟩, heq⟩

/-- In a listing that follows the code the last start up to a row leads there. -/
theorem leads_of_ascending :
    Leads atlas m.address ((front.map Prod.fst ++ [m]).filter (isStart atlas)).getLast? := by
  have hordered : (front.map Prod.fst ++ [m]).Pairwise fun a b => a.address ≤ b.address := by
    have hrows := hascending
    rw [h, List.map_append, List.map_cons, List.append_cons] at hrows
    exact (List.pairwise_append.mp hrows).1
  cases hstart : ((front.map Prod.fst ++ [m]).filter (isStart atlas)).getLast? with
  | none =>
      refine .none fun t ht hbelow => ?_
      obtain ⟨n, hn, -⟩ := exists_start h hascending ht hbelow
      exact List.ne_nil_of_mem hn (List.getLast?_eq_none_iff.mp hstart)
  | some start =>
      have hmem := (List.mem_filter.mp (List.mem_of_getLast? hstart)).1
      refine .mark (address_le_getLast? hordered (by simp) start hmem) fun t ht hbelow => ?_
      obtain ⟨n, hn, haddress⟩ := exists_start h hascending ht hbelow
      rw [← haddress]
      exact address_le_getLast? (hordered.filter _) hstart n hn

end Row

/--
The rows are those of the marks by file, line and address, and every row shows, by its identifier and at
its end, the symbol that the rows up to it carry. That is the nearest symbol up to its address exactly if
the last start among the rows up to it leads there, which is so for every row if the listing follows the
code.
-/
theorem markLines_owners :
    markLines atlas = markHeading ++ (ownedMarks atlas).map (fun r => markRow atlas r.1 r.2) ∧
      MarkListing atlas ((ownedMarks atlas).map Prod.fst) ∧
      (∀ front m owner back, ownedMarks atlas = front ++ (m, owner) :: back →
        Carried atlas (front.map Prod.fst ++ [m]) owner ∧
          (Owner atlas m.address owner ↔
            Leads atlas m.address ((front.map Prod.fst ++ [m]).filter (isStart atlas)).getLast?)) ∧
      (((ownedMarks atlas).map Prod.fst).Pairwise (fun a b => a.address ≤ b.address) →
        ∀ r ∈ ownedMarks atlas, Owner atlas r.1.address r.2) := by
  refine ⟨markLines_eq atlas, markListing_ownedMarks atlas,
    fun front m owner back h => ⟨carried_owner h, owner_iff_leads h⟩, ?_⟩
  intro hascending r hr
  obtain ⟨front, back, h⟩ := List.append_of_mem hr
  exact (owner_iff_leads h).mpr (leads_of_ascending h hascending)

/-! ### A function between the lines of another -/

def outer : Symbol := ⟨⟨1⟩, "main", ⟨16⟩⟩

def inner : Symbol := ⟨⟨2⟩, "helper", ⟨32⟩⟩

def codeAt (address : UInt64) (line : UInt32) : Mark :=
  ⟨⟨address⟩, line, 0, 1⟩

/-- Two functions, the first with two marks of which the second is of any line. -/
def twoFunctions (line : UInt32) : Atlas where
  symbols := .ofList [outer, inner]
  track := .ofList [codeAt 16 10, codeAt 20 line, codeAt 32 20]
  pool := ⟨["loop.c", "unit"]⟩

/-- In the order of the lines the functions come one after the other. -/
theorem ownedMarks_apart : ownedMarks (twoFunctions 15) =
    [(codeAt 16 10, some outer), (codeAt 20 15, some outer), (codeAt 32 20, some inner)] := by
  have hsorted : sortedMarks (twoFunctions 15) = [codeAt 16 10, codeAt 20 15, codeAt 32 20] :=
    sortedMarks_eq (by decide) (by decide)
  rw [ownedMarks, hsorted]
  rfl

/-- In the order of the lines the second function comes between the marks of the first. -/
theorem ownedMarks_woven : ownedMarks (twoFunctions 30) =
    [(codeAt 16 10, some outer), (codeAt 32 20, some inner), (codeAt 20 30, some inner)] := by
  have hsorted : sortedMarks (twoFunctions 30) = [codeAt 16 10, codeAt 32 20, codeAt 20 30] :=
    sortedMarks_eq (by decide) (by decide)
  rw [ownedMarks, hsorted]
  rfl

theorem markLines_owners_apart :
    (∀ r ∈ ownedMarks (twoFunctions 15), Owner (twoFunctions 15) r.1.address r.2) ∧
      Carried (twoFunctions 30) [codeAt 16 10, codeAt 32 20, codeAt 20 30] (some inner) ∧
      Owner (twoFunctions 30) ⟨32⟩ (some inner) ∧ ¬ Owner (twoFunctions 30) ⟨20⟩ (some inner) := by
  obtain ⟨-, -, -, hall⟩ := markLines_owners (twoFunctions 15)
  obtain ⟨-, -, hrow, -⟩ := markLines_owners (twoFunctions 30)
  obtain ⟨-, hsecond⟩ := hrow [(codeAt 16 10, some outer)] (codeAt 32 20) (some inner)
    [(codeAt 20 30, some inner)] ownedMarks_woven
  obtain ⟨hcarried, hthird⟩ := hrow [(codeAt 16 10, some outer), (codeAt 32 20, some inner)]
    (codeAt 20 30) (some inner) [] ownedMarks_woven
  refine ⟨?_, hcarried, hsecond.mpr (.mark (by decide) fun t _ hbelow => hbelow), fun howner => ?_⟩
  · apply hall
    rw [ownedMarks_apart]
    decide
  · have hleads : Leads (twoFunctions 30) ⟨20⟩ (some (codeAt 32 20)) := hthird.mp howner
    cases hleads with
    | mark hle _ => exact absurd hle (by decide)

/-- A row shows a symbol that begins after it, though the track is in order. -/
theorem exists_row_of_later_symbol :
    (twoFunctions 30).track.sorted = true ∧
      "   20          30           2           loop.c:unit.helper" ∈ markLines (twoFunctions 30) ∧
      ¬ inner.address ≤ (codeAt 20 30).address ∧
      Owner (twoFunctions 30) (codeAt 20 30).address (some outer) := by
  have hrow : markRow (twoFunctions 30) (codeAt 20 30) (some inner) =
      "   20          30           2           loop.c:unit.helper" := by
    decide +kernel
  have hsymbols : ∀ t, Begins (twoFunctions 30) t → t = outer ∨ t = inner := by
    intro t ht
    have hentries : (twoFunctions 30).symbols.entries = [outer, inner] := by decide
    simpa [hentries] using ht.1
  have hbegins : Begins (twoFunctions 30) outer := ⟨by decide, codeAt 16 10, by decide, rfl⟩
  refine ⟨by decide, ?_, by decide, .symbol hbegins (by decide) ?_ ?_⟩
  · rw [markLines_eq, ownedMarks_woven, ← hrow]
    simp
  · intro t ht hbelow
    rcases hsymbols t ht with rfl | rfl
    · decide
    · exact absurd hbelow (by decide)
  · intro t ht heq
    rcases hsymbols t ht with rfl | rfl
    · decide
    · exact absurd heq (by decide)

end CallSite.Report
