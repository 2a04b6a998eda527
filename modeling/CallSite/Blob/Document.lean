import CallSite.Atlas.Basic
import CallSite.Cbor.Reader

/-!
# Atlases as documents

The CBOR document of an atlas: a version, the symbols in the order of their identifiers, the marks
in their order and the names of the pool. Entries may be read in any order and unknown ones are
skipped, but every known one has to be there once.
-/

namespace CallSite.Document

/-- The version of the documents that are written and read. -/
def currentVersion : UInt32 := 1

/-! ### Writing -/

def writeSymbol (s : Symbol) : Bytes :=
  Cbor.map [("id", Cbor.natural s.id.value.toNat), ("name", Cbor.text s.name),
    ("address", Cbor.natural s.address.value.toNat)]

def writeMark (m : Mark) : Bytes :=
  Cbor.map [("address", Cbor.natural m.address.value.toNat), ("line", Cbor.natural m.line.toNat),
    ("source_file_index", Cbor.integer m.file.toInt),
    ("object_name_index", Cbor.integer m.object.toInt)]

def write (version : UInt32) (atlas : Atlas) : Bytes :=
  Cbor.map [("version", Cbor.natural version.toNat),
    ("symbols", Cbor.array (atlas.symbols.entries.map writeSymbol)),
    ("lines", Cbor.array (atlas.track.marks.toList.map writeMark)),
    ("names", Cbor.array (atlas.pool.names.map Cbor.text))]

/-! ### Reading -/

/-- The one element of a list. -/
def single? {α : Type} : List α → Option α
  | [a] => some a
  | _ => none

/-- How deep values may be nested that stand in an entry of a document, or of a list in it. -/
def depthInDocument : Nat := 255

def depthInEntry : Nat := 253

inductive SymbolEntry where
  | id (value : UInt64)
  | name (text : String)
  | address (value : UInt64)
  | unknown

def SymbolEntry.read : Option String → Cbor.Reader SymbolEntry
  | some "id" => .id <$> Cbor.uint64
  | some "name" => .name <$> Cbor.textValue
  | some "address" => .address <$> Cbor.uint64
  | _ => (fun _ => .unknown) <$> Cbor.skip depthInEntry

def readSymbol : Cbor.Reader Symbol := do
  let entries ← Cbor.entriesValue SymbolEntry.read
  let id ← liftM (single? (entries.filterMap fun | .id n => some n | _ => none))
  let name ← liftM (single? (entries.filterMap fun | .name s => some s | _ => none))
  let address ← liftM (single? (entries.filterMap fun | .address n => some n | _ => none))
  pure ⟨⟨id⟩, name, ⟨address⟩⟩

inductive MarkEntry where
  | address (value : UInt64)
  | line (number : UInt32)
  | file (index : Int32)
  | object (index : Int32)
  | unknown

def MarkEntry.read : Option String → Cbor.Reader MarkEntry
  | some "address" => .address <$> Cbor.uint64
  | some "line" => .line <$> Cbor.uint32
  | some "source_file_index" => .file <$> Cbor.int32
  | some "object_name_index" => .object <$> Cbor.int32
  | _ => (fun _ => .unknown) <$> Cbor.skip depthInEntry

def readMark : Cbor.Reader Mark := do
  let entries ← Cbor.entriesValue MarkEntry.read
  let address ← liftM (single? (entries.filterMap fun | .address n => some n | _ => none))
  let line ← liftM (single? (entries.filterMap fun | .line n => some n | _ => none))
  let file ← liftM (single? (entries.filterMap fun | .file i => some i | _ => none))
  let object ← liftM (single? (entries.filterMap fun | .object i => some i | _ => none))
  pure ⟨⟨address⟩, line, file, object⟩

inductive Entry where
  | version (number : UInt32)
  | symbols (list : List Symbol)
  | marks (list : List Mark)
  | names (list : List String)
  | unknown

def Entry.read : Option String → Cbor.Reader Entry
  | some "version" => .version <$> Cbor.uint32
  | some "symbols" => .symbols <$> Cbor.listValue readSymbol
  | some "lines" => .marks <$> Cbor.listValue readMark
  | some "names" => .names <$> Cbor.listValue Cbor.textValue
  | _ => (fun _ => .unknown) <$> Cbor.skip depthInDocument

/-- A document as it stands, before its version is looked at. -/
structure Raw where
  version : UInt32
  symbols : List Symbol
  marks : List Mark
  names : List String

def readRaw : Cbor.Reader Raw := do
  let entries ← Cbor.entriesValue Entry.read
  let version ← liftM (single? (entries.filterMap fun | .version n => some n | _ => none))
  let symbols ← liftM (single? (entries.filterMap fun | .symbols xs => some xs | _ => none))
  let marks ← liftM (single? (entries.filterMap fun | .marks xs => some xs | _ => none))
  let names ← liftM (single? (entries.filterMap fun | .names xs => some xs | _ => none))
  pure ⟨version, symbols, marks, names⟩

def Raw.atlas (raw : Raw) : Atlas :=
  ⟨.ofList raw.symbols, .ofList raw.marks, ⟨raw.names⟩⟩

/-- The document at the front of a byte string. -/
def read? (bs : Bytes) : Option Raw :=
  (readRaw bs).map (·.1)

end CallSite.Document
