import CallSite.Dwarf.Listing
import CallSite.Object.Image
import CallSite.Object.Listing

/-!
# Images as feeds

An image of a module lists its symbols from its symbol tables and its rows from its debug
information.
-/

namespace CallSite

structure Image where
  path : String
  file : ObjectFile
  sections : Dwarf.DebugSections

namespace Image

/-- The content of a section under its usual name or under the one of Mach-O, empty if there is
none. -/
def sectionContent (file : ObjectFile) (name : String) : Except FeedFault Window := do
  let found := [".debug_" ++ name, "__debug_" ++ name].findSome? fun spelling =>
    (file.section? spelling).map fun s => (spelling, s)
  match found with
  | none => return .empty
  | some (spelling, s) =>
      match s.content.read? with
      | some window => return window
      | none => throw (.image ("failed to read " ++ spelling ++ ": unreadable section"))

/-- The image that bytes hold. Every section of debug information has to be readable. -/
def ofBytes? (path : String) (bs : Bytes) : Except FeedFault Image := do
  match ObjectFile.read? bs with
  | none => throw (.image ("failed to parse " ++ path ++ ": not an object file"))
  | some file =>
      let abbreviations ← sectionContent file "abbrev"
      let addresses ← sectionContent file "addr"
      let info ← sectionContent file "info"
      let lines ← sectionContent file "line"
      let lineStrings ← sectionContent file "line_str"
      let _ ← sectionContent file "ranges"
      let _ ← sectionContent file "rnglists"
      let strings ← sectionContent file "str"
      let stringOffsets ← sectionContent file "str_offsets"
      return ⟨path, file, ⟨file.order, abbreviations, addresses, info, lines, lineStrings, strings,
        stringOffsets⟩⟩

def symbols (image : Image) : Enumeration FeedSymbol :=
  ObjectFile.symbolListing image.path image.file.symbols image.file.dynamicSymbols

def rows (image : Image) : Enumeration FeedRow :=
  (Dwarf.units image.sections).listing

def feed (image : Image) : Feed :=
  ⟨image.symbols, image.rows⟩

end Image

end CallSite
