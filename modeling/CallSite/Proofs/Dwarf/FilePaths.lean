import CallSite.Build.Collection
import CallSite.Dwarf.Listing
import CallSite.Proofs.SourcePath.Joining

/-!
# Paths of the files of a line table

A line table names its files and, apart from them, their directories. The path of a file is the name in
its directory, which is asked for only if the name is not absolute. What is stored of a path ends in the
name, and a directory before a name of three components makes no difference to it but by its separator.
-/

namespace CallSite

open SourcePath (Absolute Trimmed isSeparator shorten join)

/-! ### Rows stored under their paths -/

/-- Of two paths that are there and are shortened alike, a row is stored under one as under the other. -/
theorem Atlas.addRow_congr {path other : String} (hpath : path ≠ "") (hother : other ≠ "")
    (h : shorten other = shorten path) (atlas : Atlas) (row : FeedRow) :
    atlas.addRow { row with file := other } = atlas.addRow { row with file := path } := by
  have hrejection : FeedRow.rejection? { row with file := other } =
      FeedRow.rejection? { row with file := path } := by
    simp [FeedRow.rejection?, hpath, hother]
  rw [Atlas.addRow, Atlas.addRow, hrejection]
  simp only [h]

namespace Dwarf

/-! ### Entries that can be read -/

/-- A value of a line table reads as a text in the unit that the table belongs to. -/
def DebugUnit.Reads (u : DebugUnit) (sections : DebugSections) (value : AttributeValue)
    (text : String) : Prop :=
  (text? sections u.encoding u.stringBase value).map Text.lossy = some text

instance (u : DebugUnit) (sections : DebugSections) (value : AttributeValue) (text : String) :
    Decidable (u.Reads sections value text) :=
  inferInstanceAs (Decidable (_ = _))

/-- The name and the directory of a file can be read; a directory that is not there has no name. -/
structure FileEntry.Named (file : FileEntry) (sections : DebugSections) (u : DebugUnit)
    (t : LineTable) (dir name : String) : Prop where
  name_reads : u.Reads sections file.path name
  dir_reads : (∃ value, t.directory? file.directory = some value ∧ u.Reads sections value dir) ∨
    t.directory? file.directory = none ∧ dir = ""

section Named

variable {sections : DebugSections} {u : DebugUnit} {file : FileEntry} {dir name : String}

/-- No directory is asked for if the name is absolute. -/
theorem filePath?_of_absolute (hname : u.Reads sections file.path name) (h : Absolute name)
    (t : LineTable) : filePath? sections u t file = some name := by
  rw [DebugUnit.Reads] at hname
  simp [filePath?, hname, (SourcePath.isAbsolute_iff name).mpr h]

theorem FileEntry.Named.filePath?_eq {t : LineTable} (h : file.Named sections u t dir name) :
    filePath? sections u t file = some (join dir name) := by
  obtain ⟨hname, hdir⟩ := h
  by_cases habsolute : Absolute name
  · rw [filePath?_of_absolute hname habsolute, SourcePath.join_eq_name (.inl habsolute)]
  rw [DebugUnit.Reads] at hname
  have hrelative : SourcePath.isAbsolute name = false :=
    Bool.eq_false_iff.mpr (mt (SourcePath.isAbsolute_iff name).mp habsolute)
  rcases hdir with ⟨value, hvalue, hdir⟩ | ⟨hnone, rfl⟩
  · rw [DebugUnit.Reads] at hdir
    simp [filePath?, hname, hrelative, hvalue, hdir]
  · simp [filePath?, hname, hrelative, hnone]

end Named

/--
An absolute name is the path of its file, whatever the directory, and so is a name in a directory without
one. Otherwise the components of the path are those of the directory without the separators at its end,
and then those of the name. So the last component of the name is that of the shortened path. A name of
three components or more is stored alike in any two directories that agree in having a backslash or not.
-/
theorem filePath?_of_named {sections : DebugSections} {u : DebugUnit} {t : LineTable}
    {file : FileEntry} {dir name : String} (h : file.Named sections u t dir name) :
    ∃ path nameParts shortParts,
      filePath? sections u t file = some path ∧
      Text.Parts isSeparator name.toList nameParts ∧
      Text.Parts isSeparator (shorten path).toList shortParts ∧
      (Absolute name → ∀ table, filePath? sections u table file = some name) ∧
      (dir = "" → path = name) ∧
      (¬ Absolute name → dir ≠ "" → ∃ base dirParts, Trimmed dir.toList base ∧
        Text.Parts isSeparator base dirParts ∧
        Text.Parts isSeparator path.toList (dirParts ++ nameParts)) ∧
      shortParts.getLast? = nameParts.getLast? ∧
      (3 ≤ nameParts.length → dir ≠ "" →
        ∀ sections' u' t' (file' : FileEntry) dir', file'.Named sections' u' t' dir' name →
          dir' ≠ "" → ('\\' ∈ dir'.toList ↔ '\\' ∈ dir.toList) →
            ∃ path', filePath? sections' u' t' file' = some path' ∧ shorten path' = shorten path ∧
              ∀ (atlas : Atlas) (row : FeedRow),
                atlas.addRow { row with file := path' } = atlas.addRow { row with file := path }) := by
  refine ⟨join dir name, SourcePath.components name.toList,
    SourcePath.components (shorten (join dir name)).toList, h.filePath?_eq, Text.parts_split _,
    Text.parts_split _, filePath?_of_absolute h.name_reads, ?_, ?_,
    SourcePath.getLast?_components_shorten_join dir name, ?_⟩
  · intro hdir
    exact SourcePath.join_eq_name (.inr hdir)
  · intro hname hdir
    exact ⟨SourcePath.trimEnd dir.toList, _, SourcePath.trimmed_trimEnd _, Text.parts_split _,
      SourcePath.parts_join hname hdir⟩
  · intro hlength hdir sections' u' t' file' dir' h' hdir' hsame
    have hne : name ≠ "" := by
      rintro rfl
      exact absurd hlength (by decide)
    have hshort := SourcePath.shorten_join_congr hdir' hdir hsame hlength
    exact ⟨_, h'.filePath?_eq, hshort, Atlas.addRow_congr (SourcePath.join_ne_empty hne)
      (SourcePath.join_ne_empty hne) hshort⟩

/-! ### Directories of separators -/

/-- A line table without files, whose directories end in separators of either kind. -/
def slantedTable : LineTable where
  encoding := ⟨.little, false, 5, 8⟩
  minimumStep := 1
  operationsPerStep := 1
  lineBase := 0
  lineRange := 1
  opcodeBase := 1
  operandCounts := #[]
  directories := #[.text (Bytes.ofText "src\\/"), .text (Bytes.ofText "\\//")]
  files := #[]
  program := .empty
  unitName := none
  unitDirectory := none

def slantedUnit : DebugUnit :=
  ⟨slantedTable.encoding, none, none, 0, 0, some slantedTable⟩

def slantedSections : DebugSections :=
  ⟨.little, .empty, .empty, .empty, .empty, .empty, .empty, .empty⟩

/-- A file of a directory of that table. -/
def slantedFile (name : String) (directory : Nat) : FileEntry :=
  ⟨.text (Bytes.ofText name), directory⟩

/-- Of two directories before a name of three components only the backslash is left, which both have. -/
theorem filePath?_of_named_slanted :
    ∃ path other,
      filePath? slantedSections slantedUnit slantedTable (slantedFile "ui/app/main.c" 0) = some path ∧
      filePath? slantedSections slantedUnit slantedTable (slantedFile "ui/app/main.c" 1) =
        some other ∧
      Text.Parts isSeparator path.toList (["src", "ui", "app", "main.c"].map String.toList) ∧
      Text.Parts isSeparator other.toList (["", "ui", "app", "main.c"].map String.toList) ∧
      shorten other = shorten path := by
  have hnamed : (slantedFile "ui/app/main.c" 0).Named slantedSections slantedUnit slantedTable
      "src\\/" "ui/app/main.c" :=
    ⟨by decide +kernel, .inl ⟨_, rfl, by decide +kernel⟩⟩
  have hother : (slantedFile "ui/app/main.c" 1).Named slantedSections slantedUnit slantedTable
      "\\//" "ui/app/main.c" :=
    ⟨by decide +kernel, .inl ⟨_, rfl, by decide +kernel⟩⟩
  have hname : ¬ Absolute "ui/app/main.c" := by decide
  obtain ⟨path, back, _, hpath, hback, -, -, -, hjoined, -, hsame⟩ := filePath?_of_named hnamed
  obtain ⟨other, _, _, hotherPath, hotherBack, -, -, -, hotherJoined, -⟩ := filePath?_of_named hother
  obtain ⟨_, front, hbase, hfront, hparts⟩ := hjoined hname (by decide)
  obtain ⟨_, otherFront, hotherBase, hotherFront, hotherParts⟩ := hotherJoined hname (by decide)
  rw [SourcePath.trimmed_iff] at hbase hotherBase
  subst hbase hotherBase
  rw [← hfront.split_eq, ← hback.split_eq] at hparts
  rw [← hotherFront.split_eq, ← hotherBack.split_eq] at hotherParts
  rw [← hback.split_eq] at hsame
  obtain ⟨path', hpath', hshort, -⟩ :=
    hsame (by decide) (by decide) _ _ _ _ _ hother (by decide) (by decide)
  obtain rfl : path' = other := Option.some_inj.mp (hpath'.symm.trans hotherPath)
  exact ⟨path, path', hpath, hotherPath, hparts, hotherParts, hshort⟩

end Dwarf

end CallSite
