import CallSite.Proofs.Report.Listing
import CallSite.Proofs.Text.Split

/-!
# The sections of a report

A report has three sections, of symbols, marks and names, each with five lines of heading and then a
row for every entry of an atlas. As long as no text of the atlas has a line feed in it, a row is one
line, so that nothing is lost or added between the tables and the text.
-/

namespace CallSite.Report

/-! ### Headings and rows -/

def symbolHeading : List String :=
  ["========", "SYMBOLS:", "========",
    "   Token       Address     Symbol  ",
    "   -----       -------     ------  "]

def markHeading : List String :=
  ["========", "LINE NUMBERS:", "========",
    "   Address     Line number  Token       Symbol/FileName",
    "   -------     -----------  -----       ---------------"]

def nameHeading : List String :=
  ["========", "NAMES:", "========",
    "   Index       Name",
    "   -----       ----"]

section Rows

variable (atlas : Atlas)

def symbolRow (s : Symbol) : String :=
  row [(10, s.id.text), (10, toString s.address.value.toNat)] (qualifiedName atlas s)

/-- The row of a mark; the symbol that is current there is shown twice, by its identifier and at the
end. -/
def markRow (m : Mark) (owner : Option Symbol) : String :=
  row [(10, toString m.address.value.toNat), (11, toString m.line.toNat),
      (10, (owner.map fun s => s.id.text).getD "0")]
    (atlas.file m ++ ":" ++ atlas.object m ++ (owner.map fun s => "." ++ s.name).getD "")

def nameRow (index : Nat) (name : String) : String :=
  row [(10, toString index)] name

/-- The marks in the order of their rows, each with the symbol that is current there. -/
def ownedMarks : List (Mark × Option Symbol) :=
  withOwners atlas.symbols none (sortedMarks atlas)

/-- What is current at a row is the last of the symbols that begin at the rows up to it. -/
theorem owner_of_withOwners {symbols : SymbolIndex} {current owner : Option Symbol}
    {marks : List Mark} {front back : List (Mark × Option Symbol)} {m : Mark}
    (h : withOwners symbols current marks = front ++ (m, owner) :: back) :
    owner = (((front.map Prod.fst ++ [m]).filterMap fun n => symbols.at? n.address).getLast?).or
      current := by
  induction marks generalizing current front with
  | nil => simp [withOwners] at h
  | cons first rest ih =>
      rw [withOwners] at h
      cases front with
      | nil =>
          obtain ⟨hfirst, -⟩ := List.cons_eq_cons.mp h
          cases hfirst
          cases hat : symbols.at? m.address <;> simp [hat]
      | cons row front =>
          obtain ⟨rfl, hrest⟩ := List.cons_eq_cons.mp h
          rw [ih hrest]
          cases hat : symbols.at? first.address with
          | none => simp [hat]
          | some s => simp [hat, List.getLast?_cons]

theorem mem_of_mem_ownedMarks {m : Mark} {s : Symbol} (h : (m, some s) ∈ ownedMarks atlas) :
    s ∈ atlas.symbols.entries := by
  obtain ⟨front, back, hrows⟩ := List.append_of_mem h
  have howner := owner_of_withOwners hrows
  rw [Option.or_none] at howner
  obtain ⟨n, -, hn⟩ := List.mem_filterMap.mp (List.mem_of_getLast? howner.symm)
  exact List.mem_of_find?_eq_some hn

theorem map_fst_withOwners (symbols : SymbolIndex) (current : Option Symbol) (marks : List Mark) :
    (withOwners symbols current marks).map Prod.fst = marks := by
  induction marks generalizing current with
  | nil => rfl
  | cons m rest ih => rw [withOwners, List.map_cons, ih]

theorem markListing_ownedMarks : MarkListing atlas ((ownedMarks atlas).map Prod.fst) := by
  rw [ownedMarks, map_fst_withOwners]
  exact markListing_sortedMarks atlas

theorem symbolLines_eq :
    symbolLines atlas = symbolHeading ++ (sortedSymbols atlas).map (symbolRow atlas) := by
  rw [symbolLines, symbolRows_eq, List.map_map]
  rfl

theorem markLines_eq :
    markLines atlas = markHeading ++ (ownedMarks atlas).map fun r => markRow atlas r.1 r.2 := by
  refine congrArg (markHeading ++ ·) (List.map_congr_left fun ⟨m, owner⟩ _ => ?_)
  cases owner with
  | none => simp [markRow]
  | some s => simp [markRow, String.append_assoc]

theorem nameLines_eq : nameLines atlas = nameHeading ++ atlas.pool.names.mapIdx nameRow :=
  rfl

end Rows

/-! ### Lines of a text -/

/-- Nothing in a text ends a line. -/
def Unbroken (text : String) : Prop :=
  '\n' ∉ text.toList

instance (text : String) : Decidable (Unbroken text) :=
  inferInstanceAs (Decidable (¬ _))

theorem exists_of_mem_toDigits {b n : Nat} (hb : 1 < b) {c : Char} (h : c ∈ Nat.toDigits b n) :
    ∃ d < b, c = d.digitChar := by
  induction n using Nat.strong_induction_on with
  | _ n ih =>
      by_cases hn : n < b
      · rw [Nat.toDigits_of_lt_base hn] at h
        exact ⟨n, hn, List.mem_singleton.mp h⟩
      · rw [Nat.toDigits_of_base_le hb (Nat.not_lt.mp hn), List.mem_append, List.mem_singleton] at h
        rcases h with h | h
        · exact ih (n / b) (Nat.div_lt_self (by omega) hb) h
        · exact ⟨n % b, Nat.mod_lt n (by omega), h⟩

theorem unbroken_repr (n : Nat) : Unbroken n.repr := by
  have hdigit : ∀ d < 10, '\n' ≠ d.digitChar := by decide
  intro h
  rw [Nat.toList_repr] at h
  obtain ⟨d, hd, heq⟩ := exists_of_mem_toDigits (by decide) h
  exact hdigit d hd heq

theorem unbroken_idText (id : SymbolId) : Unbroken id.text := by
  have hdigit : ∀ d < 16, d.digitChar.toUpper ≠ '\n' := by decide
  intro h
  rw [SymbolId.text, Text.upperHex, String.toList_ofList] at h
  obtain ⟨c, hc, heq⟩ := List.mem_map.mp h
  obtain ⟨d, hd, rfl⟩ := exists_of_mem_toDigits (by decide) hc
  exact hdigit d hd heq

theorem Unbroken.append {s t : String} (hs : Unbroken s) (ht : Unbroken t) : Unbroken (s ++ t) := by
  rw [Unbroken, String.toList_append, List.mem_append]
  exact not_or.mpr ⟨hs, ht⟩

/-- Padding adds blanks only. -/
theorem Unbroken.padRight {s : String} (h : Unbroken s) (width : Nat) :
    Unbroken (Text.padRight width s) := by
  refine h.append fun hmem => ?_
  rw [String.toList_ofList] at hmem
  exact absurd (List.eq_of_mem_replicate hmem) (by decide)

theorem unbroken_row {cells : List (Nat × String)} {last : String}
    (hcells : ∀ cell ∈ cells, Unbroken cell.2) (hlast : Unbroken last) : Unbroken (row cells last) := by
  have hcolumns : Unbroken (String.join (cells.map fun cell =>
      Text.padRight cell.1 cell.2 ++ "  ")) := by
    rw [Unbroken, String.toList_join, List.mem_flatMap]
    rintro ⟨column, hcolumn, hmem⟩
    obtain ⟨cell, hcell, rfl⟩ := List.mem_map.mp hcolumn
    exact ((hcells cell hcell).padRight cell.1).append (by decide) hmem
  exact Unbroken.append (.append (by decide) hcolumns) hlast

/-- The lines of a text are what stands between its line feeds, and nothing stands behind the last. -/
theorem parts_lines {lines : List String} (h : ∀ line ∈ lines, Unbroken line) :
    Text.Parts (· == '\n') (String.join (lines.map (· ++ "\n"))).toList
      (lines.map String.toList ++ [[]]) := by
  induction lines with
  | nil => exact .last (by simp)
  | cons line rest ih =>
      have hline : ∀ c ∈ line.toList, (c == '\n') = false := by
        intro c hc
        rw [beq_eq_false_iff_ne]
        rintro rfl
        exact h line List.mem_cons_self hc
      have hrest := ih fun line hmem => h line (List.mem_cons_of_mem _ hmem)
      simpa [String.toList_append] using Text.Parts.cons hline rfl hrest

/-! ### The three sections -/

section Unbroken

variable {atlas : Atlas} (hsymbols : ∀ s ∈ atlas.symbols.entries, Unbroken s.name)
  (hnames : ∀ name ∈ atlas.pool.names, Unbroken name)

include hnames in
theorem unbroken_get (index : NameIndex) : Unbroken (atlas.pool.get index) := by
  rw [NamePool.get]
  split
  · rw [List.getD_eq_getElem?_getD]
    cases hname : atlas.pool.names[index.toInt.toNat]? with
    | none => decide
    | some name => exact hnames name (List.mem_of_getElem? hname)
  · decide

include hsymbols hnames

theorem unbroken_qualifiedName {s : Symbol} (hs : s ∈ atlas.symbols.entries) :
    Unbroken (qualifiedName atlas s) := by
  have hqualified := qualified_qualifiedName atlas s
  generalize qualifiedName atlas s = name at hqualified
  cases hqualified with
  | object => exact ((unbroken_get hnames _).append (by decide)).append (hsymbols s hs)
  | nameless => exact hsymbols s hs
  | unmarked => exact hsymbols s hs

theorem unbroken_markRow {m : Mark} {owner : Option Symbol} (h : (m, owner) ∈ ownedMarks atlas) :
    Unbroken (markRow atlas m owner) := by
  have hplace : Unbroken (atlas.file m ++ ":" ++ atlas.object m) :=
    ((unbroken_get hnames _).append (by decide)).append (unbroken_get hnames _)
  cases owner with
  | none =>
      have hzero : Unbroken "0" := by decide
      exact unbroken_row (by simp [unbroken_repr, hzero]) (hplace.append (by decide))
  | some s =>
      have hs : Unbroken s.name := hsymbols s (mem_of_mem_ownedMarks atlas h)
      exact unbroken_row (by simp [unbroken_repr, unbroken_idText])
        (hplace.append (Unbroken.append (by decide) hs))

theorem unbroken_lines : ∀ line ∈ lines atlas, Unbroken line := by
  intro line hline
  rw [lines, symbolLines_eq, markLines_eq, nameLines_eq] at hline
  simp only [List.mem_append, List.mem_map, List.mem_mapIdx] at hline
  rcases hline with ((hheading | ⟨s, hs, rfl⟩) | hheading | ⟨⟨m, owner⟩, hm, rfl⟩) |
    hheading | ⟨i, hi, rfl⟩
  · exact (by simp [symbolHeading, Unbroken] : ∀ line ∈ symbolHeading, Unbroken line) line hheading
  · have hmem := (symbolListing_sortedSymbols atlas).perm.mem_iff.mp hs
    exact unbroken_row (by simp [unbroken_idText, unbroken_repr])
      (unbroken_qualifiedName hsymbols hnames hmem)
  · exact (by simp [markHeading, Unbroken] : ∀ line ∈ markHeading, Unbroken line) line hheading
  · exact unbroken_markRow hsymbols hnames hm
  · exact (by simp [nameHeading, Unbroken] : ∀ line ∈ nameHeading, Unbroken line) line hheading
  · exact unbroken_row (by simp [unbroken_repr]) (hnames _ (List.getElem_mem hi))

end Unbroken

/--
A report is the lines of three sections, each a heading of five and one row for every symbol, mark or
name: symbols and marks as they are listed, names in the order of their indices. Without line feeds in
the texts of an atlas the lines of the report are just these.
-/
theorem render_sections (atlas : Atlas) :
    ∃ (symbols : List Symbol) (marks : List (Mark × Option Symbol)) (rows : List String),
      SymbolListing atlas symbols ∧ (∀ s, Qualified atlas s (qualifiedName atlas s)) ∧
      MarkListing atlas (marks.map Prod.fst) ∧
      rows = symbolHeading ++ symbols.map (symbolRow atlas) ++
        (markHeading ++ marks.map fun r => markRow atlas r.1 r.2) ++
        (nameHeading ++ atlas.pool.names.mapIdx nameRow) ∧
      rows.length = 15 + atlas.symbols.size + atlas.track.size + atlas.pool.size ∧
      render atlas = String.join (rows.map (· ++ "\n")) ∧
      ((∀ s ∈ atlas.symbols.entries, Unbroken s.name) →
        (∀ name ∈ atlas.pool.names, Unbroken name) →
          Text.Parts (· == '\n') (render atlas).toList (rows.map String.toList ++ [[]])) := by
  have hrows : lines atlas = symbolHeading ++ (sortedSymbols atlas).map (symbolRow atlas) ++
      (markHeading ++ (ownedMarks atlas).map fun r => markRow atlas r.1 r.2) ++
      (nameHeading ++ atlas.pool.names.mapIdx nameRow) := by
    rw [lines, symbolLines_eq, markLines_eq, nameLines_eq]
  have hsymbols := symbolListing_sortedSymbols atlas
  have hmarks := markListing_ownedMarks atlas
  refine ⟨sortedSymbols atlas, ownedMarks atlas, lines atlas, hsymbols,
    qualified_qualifiedName atlas, hmarks, hrows, ?_, rfl, ?_⟩
  · have hsymbolCount : (sortedSymbols atlas).length = atlas.symbols.size := hsymbols.perm.length_eq
    have hmarkCount : (ownedMarks atlas).length = atlas.track.size := by
      simpa [Track.size] using hmarks.perm.length_eq
    rw [hrows]
    simp [symbolHeading, markHeading, nameHeading, hsymbolCount, hmarkCount, NamePool.size]
    omega
  · intro hsymbolTexts hnameTexts
    exact parts_lines (unbroken_lines hsymbolTexts hnameTexts)

/-! ### An atlas that needs every rule -/

/-- Two symbols of one qualified name, a mark that belongs to no object and one that is of no file. -/
def raggedAtlas : Atlas where
  symbols := .ofList [⟨⟨0x2A⟩, "run", ⟨80⟩⟩, ⟨⟨7⟩, "run", ⟨96⟩⟩, ⟨⟨3⟩, "é", ⟨40⟩⟩]
  track := .ofList [⟨⟨44⟩, 9, 0, 1⟩, ⟨⟨40⟩, 7, 0, 1⟩, ⟨⟨80⟩, 7, 0, 5⟩, ⟨⟨40⟩, 7, -1, 1⟩]
  pool := ⟨["main.c", "unit"]⟩

/-- The symbols without an object come first, and the later of them is current at two rows. -/
def raggedRows : List String :=
  ["========", "SYMBOLS:", "========",
    "   Token       Address     Symbol  ",
    "   -----       -------     ------  ",
    "   7           96          run",
    "   2A          80          run",
    "   3           40          unit.é",
    "========", "LINE NUMBERS:", "========",
    "   Address     Line number  Token       Symbol/FileName",
    "   -------     -----------  -----       ---------------",
    "   40          7            3           :unit.é",
    "   40          7            3           main.c:unit.é",
    "   80          7            2A          main.c:.run",
    "   44          9            2A          main.c:unit.run",
    "========", "NAMES:", "========",
    "   Index       Name",
    "   -----       ----",
    "   0           main.c",
    "   1           unit"]

theorem lines_ragged : lines raggedAtlas = raggedRows := by
  have hsymbols : sortedSymbols raggedAtlas =
      [⟨⟨7⟩, "run", ⟨96⟩⟩, ⟨⟨0x2A⟩, "run", ⟨80⟩⟩, ⟨⟨3⟩, "é", ⟨40⟩⟩] := by
    refine (symbolListing_sortedSymbols raggedAtlas).unique _ ⟨by decide, ?_⟩
    simp only [Bytes.ofText_lt_iff]
    decide +kernel
  have hmarks : sortedMarks raggedAtlas =
      [⟨⟨40⟩, 7, -1, 1⟩, ⟨⟨40⟩, 7, 0, 1⟩, ⟨⟨80⟩, 7, 0, 5⟩, ⟨⟨44⟩, 9, 0, 1⟩] :=
    sortedMarks_eq (by decide) (by decide +kernel)
  rw [lines, symbolLines_eq, markLines_eq, nameLines_eq, ownedMarks, hsymbols, hmarks]
  rfl

theorem render_sections_ragged :
    (∀ s ∈ raggedAtlas.symbols.entries, Unbroken s.name) ∧
      (∀ name ∈ raggedAtlas.pool.names, Unbroken name) ∧
      Text.Parts (· == '\n') (render raggedAtlas).toList (raggedRows.map String.toList ++ [[]]) := by
  have hsymbols : ∀ s ∈ raggedAtlas.symbols.entries, Unbroken s.name := by decide
  have hnames : ∀ name ∈ raggedAtlas.pool.names, Unbroken name := by decide
  obtain ⟨_, _, rows, -, -, -, -, -, -, hparts⟩ := render_sections raggedAtlas
  have hrows := hparts hsymbols hnames
  refine ⟨hsymbols, hnames, ?_⟩
  -- The text says what its lines are, so the rows can be no others.
  have hragged : Text.split (· == '\n') (render raggedAtlas).toList =
      raggedRows.map String.toList ++ [[]] := by
    rw [render, lines_ragged]
    exact (parts_lines (lines_ragged ▸ unbroken_lines hsymbols hnames)).split_eq
  rw [← hragged, hrows.split_eq]
  exact hrows

end CallSite.Report
