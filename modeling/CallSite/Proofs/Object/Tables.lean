import CallSite.Bytes.Lemmas
import CallSite.Object.Image
import Mathlib.Data.List.Forall2

/-!
# Places in symbol tables

Whatever the format of a file, the entries of its symbol tables come in the order of the table, each
with a place of its own, and places are 64-bit numbers because the counts in the file are.
-/

namespace CallSite

/-- No two entries are at one place, and places are 64-bit numbers. -/
structure Numbered (entries : List ObjectSymbol) : Prop where
  nodup : (entries.map ObjectSymbol.index).Nodup
  lt_size : ∀ e ∈ entries, e.index < UInt64.size

theorem numbered_of_ascending {entries : List ObjectSymbol} {n : Nat} (hn : n ≤ UInt64.size)
    (h : entries.Pairwise fun a b => a.index < b.index) (hlt : ∀ e ∈ entries, e.index < n) :
    Numbered entries where
  nodup := List.pairwise_map.mpr (h.imp Nat.ne_of_lt)
  lt_size e he := Nat.lt_of_lt_of_le (hlt e he) hn

theorem numbered_nil : Numbered [] :=
  ⟨.nil, fun _ he => nomatch he⟩

/-- The entries of both tables of a file are numbered. -/
structure ObjectFile.TablesNumbered (file : ObjectFile) : Prop where
  static : Numbered file.symbols
  dynamic : Numbered file.dynamicSymbols

/-! ### Windows -/

namespace Window

variable {w : Window} {offset n : Nat}

theorem length_bytesFrom (w : Window) (i n : Nat) : (w.bytesFrom i n).length = n := by
  induction n generalizing i with
  | zero => rfl
  | succ n ih => rw [bytesFrom, List.length_cons, ih]

theorem size_of_slice? {table : Window} (h : w.slice? offset n = some table) : table.size = n := by
  rw [slice?] at h
  split at h
  · cases h
    exact Nat.add_sub_cancel_left _ _
  · cases h

theorem number?_lt {order : ByteOrder} {width k : Nat} (h : w.number? order width offset = some k) :
    k < 256 ^ width := by
  obtain ⟨bs, hbs, rfl⟩ := Option.map_eq_some_iff.mp h
  obtain ⟨table, htable, rfl⟩ := Option.map_eq_some_iff.mp hbs
  have hlength : table.toBytes.length = width := by
    rw [toBytes, length_bytesFrom, size_of_slice? htable]
  cases order with
  | little =>
    rw [← hlength]
    exact Bytes.ofLittleEndian_lt _
  | big =>
    rw [← hlength, ← List.length_reverse]
    exact Bytes.ofLittleEndian_lt _

theorem length_entries? {entrySize : Nat} {entries : List Window}
    (h : w.entries? offset entrySize n = some entries) : entries.length = n := by
  obtain ⟨table, -, htable⟩ := Option.bind_eq_some_iff.mp h
  cases htable
  rw [List.length_map, List.length_range]

end Window

theorem ObjectLayout.read_word_lt {l : ObjectLayout} {w : Window} {offset n : Nat}
    (h : l.read w l.word offset = some n) : n < UInt64.size := by
  have hlt := Window.number?_lt h
  rw [word] at hlt
  split at hlt
  · exact hlt
  · exact Nat.lt_trans hlt (by decide)

/-! ### Entries that are read in turn -/

section Turn

variable {α β : Type}

theorem forall₂_of_mapM {f : α → Option β} {xs : List α} {ys : List β} (h : xs.mapM f = some ys) :
    List.Forall₂ (fun x y => f x = some y) xs ys := by
  induction xs generalizing ys with
  | nil =>
    cases h
    exact .nil
  | cons x xs ih =>
    rw [List.mapM_cons] at h
    obtain ⟨y, hy, h⟩ := Option.bind_eq_some_iff.mp h
    obtain ⟨rest, hrest, h⟩ := Option.bind_eq_some_iff.mp h
    cases h
    exact .cons hy (ih hrest)

/-- Entries that are read with their places are at the places from zero on. -/
theorem map_place_of_mapM {f : α × Nat → Option β} {place : β → Nat}
    (hplace : ∀ {p b}, f p = some b → place b = p.2) {xs : List α} {ys : List β}
    (h : xs.zipIdx.mapM f = some ys) : ys.map place = List.range xs.length := by
  have hplaces : List.Forall₂ (· = ·) (xs.zipIdx.map Prod.snd) (ys.map place) :=
    List.forall₂_map_left_iff.mpr (List.forall₂_map_right_iff.mpr
      ((forall₂_of_mapM h).imp fun _ _ hb => (hplace hb).symm))
  rw [List.forall₂_eq_eq_eq] at hplaces
  rw [← hplaces, List.zipIdx_map_snd, List.range_eq_range']

theorem ascending_of_map_eq_range {ys : List β} {place : β → Nat} {n : Nat}
    (h : ys.map place = List.range n) :
    (ys.Pairwise fun a b => place a < place b) ∧ ∀ b ∈ ys, place b < n := by
  constructor
  · apply List.pairwise_map.mp
    rw [h]
    exact List.pairwise_lt_range
  · intro b hb
    rw [← List.mem_range, ← h]
    exact List.mem_map_of_mem hb

end Turn

/-! ### Executables in the linkable format -/

namespace Elf

theorem symbol?_index {l : ObjectLayout} {strings : Option Window} {index : Nat} {w : Window}
    {e : ObjectSymbol} (h : symbol? l strings index w = some e) : e.index = index := by
  simp only [symbol?, Option.bind_eq_bind, Option.bind_eq_some_iff] at h
  obtain ⟨_, -, _, -, _, -, _, -, h⟩ := h
  cases h
  rfl

theorem size_lt_of_ofWindow? {l : ObjectLayout} {w : Window} {s : SectionHeader}
    (h : SectionHeader.ofWindow? l w = some s) : s.size < UInt64.size := by
  simp only [SectionHeader.ofWindow?, Option.bind_eq_bind, Option.bind_eq_some_iff] at h
  obtain ⟨_, -, _, -, _, -, _, -, size, hsize, _, -, _, -, h⟩ := h
  cases h
  exact ObjectLayout.read_word_lt hsize

theorem size_lt_of_mapM {l : ObjectLayout} {windows : List Window} {headers : List SectionHeader}
    (h : windows.mapM (SectionHeader.ofWindow? l) = some headers) :
    ∀ s ∈ headers, s.size < UInt64.size := by
  have hread := forall₂_of_mapM h
  clear h
  induction hread with
  | nil => exact fun _ hs => nomatch hs
  | cons hw _ ih => exact List.forall_mem_cons.mpr ⟨size_lt_of_ofWindow? hw, ih⟩

theorem size_lt_of_sectionHeaders? {l : ObjectLayout} {file : Window} {header : FileHeader}
    {headers : List SectionHeader} (h : sectionHeaders? l file header = some headers) :
    ∀ s ∈ headers, s.size < UInt64.size := by
  have hcounted : ∀ count : Nat, (if count = 0 then pure [] else do
        guard (header.sectionEntrySize = SectionHeader.entrySize l)
        let windows ← file.entries? header.sectionOffset header.sectionEntrySize count
        windows.mapM (SectionHeader.ofWindow? l) : Option (List SectionHeader)) = some headers →
      ∀ s ∈ headers, s.size < UInt64.size := by
    intro count hcount
    split at hcount
    · cases hcount
      exact fun _ hs => nomatch hs
    · simp only [Option.bind_eq_bind, Option.bind_eq_some_iff] at hcount
      obtain ⟨_, -, windows, -, hwindows⟩ := hcount
      exact size_lt_of_mapM hwindows
  rw [sectionHeaders?] at h
  split at h
  · cases h
    exact fun _ hs => nomatch hs
  · split at h
    · exact hcounted header.sectionCount h
    · obtain ⟨first, -, h⟩ := Option.bind_eq_some_iff.mp h
      exact hcounted first.size h

theorem size_lt_of_window? {file content : Window} {s : SectionHeader}
    (h : s.window? file = some content) (hsize : s.size < UInt64.size) :
    content.size < UInt64.size := by
  rw [SectionHeader.window?] at h
  split at h
  · cases h
    decide
  · rwa [Window.size_of_slice? h]

theorem numbered_of_symbolTable? {l : ObjectLayout} {file : Window} {headers : List SectionHeader}
    {kind place : Nat} {symbols : List ObjectSymbol}
    (h : symbolTable? l file headers kind = some (place, symbols))
    (hsizes : ∀ s ∈ headers, s.size < UInt64.size) : Numbered symbols := by
  -- the entries are read in turn, whatever the table of their names is
  have hread : ∀ (content : Window) (windows : List Window) (strings : Option Window)
      (read : List ObjectSymbol), content.size < UInt64.size →
      content.entries? 0 (symbolSize l) (content.size / symbolSize l) = some windows →
      (windows.zipIdx.mapM fun p => symbol? l strings p.2 p.1) = some read →
      Numbered (read.drop 1) := by
    intro content windows strings read hsize hwindows hsymbols
    have hplaces := map_place_of_mapM symbol?_index hsymbols
    obtain ⟨hascending, hlt⟩ := ascending_of_map_eq_range hplaces
    have hlength : windows.length ≤ UInt64.size := by
      rw [Window.length_entries? hwindows]
      exact Nat.le_trans (Nat.div_le_self _ _) (Nat.le_of_lt hsize)
    exact numbered_of_ascending hlength (hascending.sublist (List.drop_sublist 1 read))
      fun e he => hlt e (List.mem_of_mem_drop he)
  rw [symbolTable?] at h
  split at h
  · cases h
    exact numbered_nil
  · simp only [Option.bind_eq_bind, Option.bind_eq_some_iff] at h
    obtain ⟨header, hheader, content, hcontent, windows, hwindows, h⟩ := h
    have hsize := size_lt_of_window? hcontent (hsizes header (List.mem_of_getElem? hheader))
    split at h <;> simp only [Option.bind_eq_some_iff] at h
    · obtain ⟨strings, -, _, -, read, hsymbols, h⟩ := h
      cases h
      exact hread content windows strings read hsize hwindows hsymbols
    · obtain ⟨_, -, _, -, strings, -, _, -, read, hsymbols, h⟩ := h
      cases h
      exact hread content windows strings read hsize hwindows hsymbols

theorem numbered_of_read? {file : Window} {object : ObjectFile} (h : read? file = some object) :
    object.TablesNumbered := by
  simp only [read?, Option.bind_eq_bind, Option.bind_eq_some_iff] at h
  obtain ⟨l, -, _, -, _, -, headers, hheaders, _, -, static, hstatic, dynamic, hdynamic, _, -, h⟩ := h
  cases h
  have hsizes := size_lt_of_sectionHeaders? hheaders
  exact ⟨numbered_of_symbolTable? hstatic hsizes, numbered_of_symbolTable? hdynamic hsizes⟩

end Elf

/-! ### Mach objects -/

namespace MachO

theorem entry?_index {l : ObjectLayout} {strings : Option Window} {index : Nat} {w : Window}
    {e : Entry} (h : entry? l strings index w = some e) : e.index = index := by
  simp only [ entry?, Option.bind_eq_bind, Option.bind_eq_some_iff] at h
  obtain ⟨_, -, _, -, _, -, _, -, h⟩ := h
  cases h
  rfl

theorem symbol?_index {sections : List Section} {e : Entry} {s : ObjectSymbol}
    (h : symbol? sections e = some s) : s.index = e.index := by
  rw [symbol?] at h
  split at h
  · cases h
  · cases h
    rfl

/-- The entries of a table come in order, and their number fits into four bytes. -/
structure Listed (entries : List Entry) : Prop where
  ascending : entries.Pairwise fun a b => a.index < b.index
  index_lt : ∀ e ∈ entries, e.index < UInt32.size

theorem listed_of_entries? {l : ObjectLayout} {file : Window} {command : Command}
    {entries : List Entry} (h : entries? l file command = some entries) : Listed entries := by
  simp only [entries?, Option.bind_eq_bind, Option.bind_eq_some_iff] at h
  obtain ⟨_, -, count, hcount, _, -, _, -, windows, hwindows, hentries⟩ := h
  have hplaces := map_place_of_mapM entry?_index hentries
  rw [Window.length_entries? hwindows] at hplaces
  obtain ⟨hascending, hlt⟩ := ascending_of_map_eq_range hplaces
  exact ⟨hascending, fun e he => Nat.lt_trans (hlt e he) (Window.number?_lt hcount)⟩

theorem listed_of_content? {l : ObjectLayout} {file : Window} {commands : List Command}
    {found content : Content} (h : content? l file found commands = some content)
    (hfound : Listed found.entries) : Listed content.entries := by
  induction commands generalizing found with
  | nil =>
    cases h
    exact hfound
  | cons command rest ih =>
    simp only [content?, Option.bind_eq_bind, Option.pure_def, Option.bind_some] at h
    split at h
    · obtain ⟨sections, -, h⟩ := Option.bind_eq_some_iff.mp h
      exact ih h hfound
    · split at h
      · obtain ⟨entries, hentries, h⟩ := Option.bind_eq_some_iff.mp h
        exact ih h (listed_of_entries? hentries)
      · exact ih h hfound

theorem numbered_of_listed {entries : List Entry} (h : Listed entries) (sections : List Section) :
    Numbered (entries.filterMap (symbol? sections)) := by
  apply numbered_of_ascending (show UInt32.size ≤ UInt64.size by decide)
  · apply h.ascending.filterMap
    intro a b hlt s hs t ht
    rw [symbol?_index hs, symbol?_index ht]
    exact hlt
  · intro s hs
    obtain ⟨e, he, hes⟩ := List.mem_filterMap.mp hs
    rw [symbol?_index hes]
    exact h.index_lt e he

theorem numbered_of_read? {file : Window} {object : ObjectFile} (h : read? file = some object) :
    object.TablesNumbered := by
  have hnone : Listed [] := ⟨.nil, fun _ he => nomatch he⟩
  simp only [read?, Option.bind_eq_bind, Option.bind_eq_some_iff] at h
  obtain ⟨l, -, _, -, _, -, _, -, h⟩ := h
  split at h
  · cases h
    exact ⟨numbered_of_listed hnone [], numbered_nil⟩
  · obtain ⟨content, hcontent, h⟩ := Option.bind_eq_some_iff.mp h
    cases h
    exact ⟨numbered_of_listed (listed_of_content? hcontent hnone) _, numbered_nil⟩

end MachO

/-! ### Entries that add to others -/

namespace SymbolTable

theorem size_entries_le {file : Window} {order : ByteOrder} {entrySize offset count : Nat}
    {table : SymbolTable} (h : read? file order entrySize offset count = some table) :
    table.entries.size ≤ count := by
  simp only [read?, Option.bind_eq_bind] at h
  split at h
  · cases h
    exact Nat.zero_le _
  · simp only [Option.bind_eq_some_iff] at h
    obtain ⟨windows, hwindows, _, -, h⟩ := h
    cases h
    rw [List.size_toArray, Window.length_entries? hwindows]

variable {α : Type} {read? : Nat → Window → Option α} {place : α → Nat}
  (hplace : ∀ index w e, read? index w = some e → place e = index) (extraCount : α → Nat)
  (table : SymbolTable)
include hplace

/-- Entries that add to another one are passed over, so places only grow. -/
theorem ascending_entriesFrom (fuel index : Nat) :
    ((table.entriesFrom read? extraCount fuel index).Pairwise fun a b => place a < place b) ∧
      ∀ e ∈ table.entriesFrom read? extraCount fuel index,
        index ≤ place e ∧ place e < table.entries.size := by
  induction fuel generalizing index with
  | zero => exact ⟨.nil, fun _ he => nomatch he⟩
  | succ fuel ih =>
    rw [entriesFrom]
    split
    case h_1 => exact ⟨.nil, fun _ he => nomatch he⟩
    case h_2 w hw =>
      have hindex : index < table.entries.size := (Array.getElem?_eq_some_iff.mp hw).1
      split
      case h_1 => exact ⟨.nil, fun _ he => nomatch he⟩
      case h_2 e he =>
        obtain ⟨hascending, hrest⟩ := ih (index + 1 + extraCount e)
        have hfirst := hplace index w e he
        refine ⟨List.pairwise_cons.mpr ⟨fun b hb => ?_, hascending⟩, fun b hb => ?_⟩
        · have hb := hrest b hb
          omega
        · rcases List.mem_cons.mp hb with rfl | hb
          · omega
          · have hb := hrest b hb
            omega

/-- The symbols of the entries that do not add to another are numbered by the places of these. -/
theorem numbered_leading {symbol : α → ObjectSymbol} (hsymbol : ∀ e, (symbol e).index = place e)
    (hsize : table.entries.size ≤ UInt64.size) :
    Numbered ((table.leading read? extraCount).map symbol) := by
  obtain ⟨hascending, hplaces⟩ :=
    ascending_entriesFrom hplace extraCount table table.entries.size 0
  rw [leading]
  refine numbered_of_ascending hsize (List.pairwise_map.mpr ?_) (List.forall_mem_map.mpr ?_)
  · simpa only [hsymbol] using hascending
  · simpa only [hsymbol] using fun e he => (hplaces e he).2

end SymbolTable

/-! ### Object files of the common format, and portable executables -/

namespace Coff

theorem Entry.index_of_read? {wide : Bool} {index : Nat} {w : Window} {e : Entry}
    (h : Entry.read? wide index w = some e) : e.index = index := by
  simp only [Entry.read?, Option.bind_eq_bind, Option.bind_eq_some_iff] at h
  obtain ⟨_, -, _, -, _, -, _, -, _, -, _, -, h⟩ := h
  cases h
  rfl

theorem numbered_object {table : SymbolTable} {count : Nat} (hsize : table.entries.size ≤ count)
    (hcount : count < UInt32.size) (wide : Bool) (imageBase : Nat) (headers : List SectionHeader)
    (content : SectionHeader → SectionContent) :
    (object wide table imageBase headers content).TablesNumbered where
  static := SymbolTable.numbered_leading (fun _ _ _ => Entry.index_of_read?) _ table (fun _ => rfl)
    (Nat.le_trans hsize (Nat.le_trans (Nat.le_of_lt hcount) (by decide)))
  dynamic := numbered_nil

theorem symbolCount_lt {wide : Bool} {file : Window} {h : Headers} (hh : headers? wide file = some h) :
    h.symbolCount < UInt32.size := by
  rw [headers?] at hh
  split at hh
  · simp only [wideHeaders?, Option.bind_eq_bind, Option.bind_eq_some_iff] at hh
    obtain ⟨_, -, _, -, _, -, _, -, _, -, count, hcount, hh⟩ := hh
    cases hh
    exact Window.number?_lt hcount
  · simp only [narrowHeaders?, Option.bind_eq_bind, Option.bind_eq_some_iff] at hh
    obtain ⟨_, -, _, -, _, -, _, -, count, hcount, hh⟩ := hh
    cases hh
    exact Window.number?_lt hcount

theorem numbered_of_read? {wide : Bool} {file : Window} {object : ObjectFile}
    (h : read? wide file = some object) : object.TablesNumbered := by
  simp only [read?, Option.bind_eq_bind, Option.bind_eq_some_iff] at h
  obtain ⟨headers, hheaders, _, -, table, htable, h⟩ := h
  cases h
  exact numbered_object (SymbolTable.size_entries_le htable) (symbolCount_lt hheaders) wide 0 _ _

end Coff

namespace Pe

theorem symbolCount_lt {file : Window} {headers : Headers} (h : headers? file = some headers) :
    headers.symbolCount < UInt32.size := by
  simp only [headers?, Option.bind_eq_bind, Option.bind_eq_some_iff] at h
  obtain ⟨_, -, _, -, _, -, _, -, _, -, _, -, _, -, _, -, _, -, _, -, _, -, _, -, _, -, _, -,
    count, hcount, h⟩ := h
  have hlt := Window.number?_lt hcount
  split at h
  · obtain ⟨_, -, h⟩ := Option.bind_eq_some_iff.mp h
    cases h
    exact hlt
  · obtain ⟨_, -, h⟩ := Option.bind_eq_some_iff.mp h
    cases h
    exact hlt

theorem numbered_of_read? {file : Window} {object : ObjectFile} (h : read? file = some object) :
    object.TablesNumbered := by
  simp only [read?, Option.bind_eq_bind, Option.bind_eq_some_iff] at h
  obtain ⟨headers, hheaders, sections, -, h⟩ := h
  cases h
  refine Coff.numbered_object ?_ (symbolCount_lt hheaders) false headers.imageBase sections _
  cases htable : SymbolTable.read? file .little (Coff.symbolSize false) headers.symbolOffset
      headers.symbolCount with
  | none => exact Nat.zero_le _
  | some table => exact SymbolTable.size_entries_le htable

end Pe

/-! ### The extended common format -/

namespace Xcoff

theorem Entry.index_of_read? {l : ObjectLayout} {table : SymbolTable} {index : Nat} {w : Window}
    {e : Entry} (h : Entry.read? l table index w = some e) : e.index = index := by
  simp only [Entry.read?, Option.bind_eq_bind, Option.bind_eq_some_iff] at h
  obtain ⟨_, -, _, -, _, -, _, -, h⟩ := h
  cases h
  rfl

theorem symbolCount_lt {l : ObjectLayout} {file : Window} {h : Headers}
    (hh : headers? l file = some h) : h.symbolCount < UInt32.size := by
  simp only [headers?, Option.bind_eq_bind, Option.bind_eq_some_iff] at hh
  obtain ⟨_, -, _, -, _, -, _, -, _, -, _, -, count, hcount, hh⟩ := hh
  cases hh
  exact Window.number?_lt hcount

theorem numbered_of_read? {l : ObjectLayout} {file : Window} {object : ObjectFile}
    (h : read? l file = some object) : object.TablesNumbered := by
  simp only [read?, Option.bind_eq_bind, Option.bind_eq_some_iff] at h
  obtain ⟨headers, hheaders, _, -, table, htable, h⟩ := h
  cases h
  have hsize : table.entries.size ≤ UInt64.size :=
    Nat.le_trans (SymbolTable.size_entries_le htable)
      (Nat.le_trans (Nat.le_of_lt (symbolCount_lt hheaders)) (by decide))
  exact ⟨SymbolTable.numbered_leading (fun _ _ _ => Entry.index_of_read?) _ table (fun _ => rfl) hsize,
    numbered_nil⟩

end Xcoff

/-! ### Any format -/

namespace ObjectFile

/-- Both tables of every file that is read are numbered. -/
theorem numbered_of_read? {bs : Bytes} {object : ObjectFile} (h : read? bs = some object) :
    object.TablesNumbered := by
  obtain ⟨mark, -, h⟩ := Option.bind_eq_some_iff.mp h
  split at h
  · exact Elf.numbered_of_read? h
  · exact MachO.numbered_of_read? h
  · exact MachO.numbered_of_read? h
  · exact Pe.numbered_of_read? h
  · exact Coff.numbered_of_read? h
  · exact Xcoff.numbered_of_read? h
  · exact Xcoff.numbered_of_read? h
  · split at h
    · exact Coff.numbered_of_read? h
    · cases h
  · cases h

end ObjectFile

end CallSite
