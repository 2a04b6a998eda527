import CallSite.Bytes
import CallSite.Fault
import CallSite.Text.Split

/-!
# File stores

A file store is a tree of directories and files with a working directory. Paths are walked part by
part: every part but the last has to lead to a directory, and a path that ends in a slash has to
name one.
-/

namespace CallSite

/-- The names that lead from the root to a node. -/
abbrev Location := List String

/-- What can be at a place. Links and device nodes are left out, so a place is reached by one chain of
names. -/
inductive Node where
  | directory
  | file (content : Bytes) (mode : Nat)
deriving DecidableEq

structure FileStore where
  /-- Where relative paths begin. -/
  here : Location
  nodes : List (Location × Node)
deriving DecidableEq

namespace FileStore

/-- The access rights of a file that is made by writing it. -/
def newFileMode : Nat := 0o644

/-- A root with an empty working directory in it. -/
def empty : FileStore :=
  ⟨["w"], [([], .directory), (["w"], .directory)]⟩

def node? (store : FileStore) (location : Location) : Option Node :=
  store.nodes.lookup location

/-- Puts a node in the place of the one at a location, or after all others. -/
def place (location : Location) (node : Node) : List (Location × Node) → List (Location × Node)
  | [] => [(location, node)]
  | entry :: rest =>
      if entry.1 = location then (location, node) :: rest
      else entry :: place location node rest

def put (store : FileStore) (location : Location) (node : Node) : FileStore :=
  { store with nodes := place location node store.nodes }

/-! ### Paths -/

/-- The parts of a path between slashes; a path with a zero character or without any character
names nothing. -/
def segments (path : String) : Except FileFault (List String) :=
  let cs := path.toList
  if cs.contains (Char.ofNat 0) then .error .malformedPath
  else if cs.isEmpty then .error .missing
  else .ok ((Text.split (· = '/') cs).map String.ofList)

/-- Where a path begins. -/
def start (store : FileStore) (path : String) : Location :=
  if path.toList.head? = some '/' then [] else store.here

/-- One part further from a location, which has to be a directory. -/
def enter (store : FileStore) (location : Location) (segment : String) :
    Except FileFault Location :=
  match store.node? location with
  | none => .error .missing
  | some (.file _ _) => .error .notDirectory
  | some .directory =>
      if segment = "" ∨ segment = "." then .ok location
      else if segment = ".." then .ok location.dropLast
      else .ok (location ++ [segment])

/-- Where a path leads, whether there is something or not. -/
def resolve (store : FileStore) (path : String) : Except FileFault Location := do
  let parts ← segments path
  parts.foldlM store.enter (store.start path)

def find (store : FileStore) (path : String) : Except FileFault (Location × Node) := do
  let location ← store.resolve path
  match store.node? location with
  | some node => pure (location, node)
  | none => throw .missing

def isDirectory (store : FileStore) (path : String) : Bool :=
  match store.find path with
  | .ok (_, .directory) => true
  | _ => false

def isFile (store : FileStore) (path : String) : Bool :=
  match store.find path with
  | .ok (_, .file _ _) => true
  | _ => false

/-! ### Reading and writing -/

def findFile (store : FileStore) (path : String) : Except FileFault (Location × Bytes × Nat) := do
  match ← store.find path with
  | (location, .file content mode) => pure (location, content, mode)
  | (_, .directory) => throw .isDirectory

def read (store : FileStore) (path : String) : Except FileFault Bytes := do
  let (_, content, _) ← store.findFile path
  pure content

/-- Where a file is to be made or overwritten: in a directory that exists, under a name of its
own. -/
def target (store : FileStore) (path : String) : Except FileFault Location := do
  let parts ← segments path
  let named := (parts.reverse.dropWhile (· = "")).reverse
  match named.getLast? with
  | none => throw .isDirectory
  | some last =>
      let parent ← named.dropLast.foldlM store.enter (store.start path)
      let location ← store.enter parent last
      if named.length < parts.length ∨ last = "." ∨ last = ".." then throw .isDirectory
      match store.node? location with
      | some .directory => throw .isDirectory
      | _ => pure location

/-- The access rights of the file at a location, or those of a new one. -/
def modeAt (store : FileStore) (location : Location) : Nat :=
  match store.node? location with
  | some (.file _ mode) => mode
  | _ => newFileMode

/-- Makes or overwrites a file; one that exists keeps its access rights. -/
def write (store : FileStore) (path : String) (content : Bytes) : Except FileFault FileStore := do
  let location ← store.target path
  pure (store.put location (.file content (store.modeAt location)))

/-- Copies a file with its access rights. The copy is emptied before the file is read, so a file
that is copied to itself is lost. -/
def copy (store : FileStore) (source destination : String) : Except FileFault FileStore := do
  let (origin, content, mode) ← store.findFile source
  let location ← store.target destination
  pure (store.put location (.file (if origin = location then [] else content) mode))

/-! ### Directories -/

/-- One part further, making a directory where nothing is; the store grows even if a later part
fails. -/
def makeSegment (state : FileStore × Except FileFault Location) (segment : String) :
    FileStore × Except FileFault Location :=
  match state with
  | (store, .error fault) => (store, .error fault)
  | (store, .ok location) =>
      match store.enter location segment with
      | .error fault => (store, .error fault)
      | .ok location =>
          match store.node? location with
          | none => (store.put location .directory, .ok location)
          | some .directory => (store, .ok location)
          | some (.file _ _) => (store, .error (.other "File exists (os error 17)"))

/-- Makes every directory on a path that does not exist yet. -/
def makeDirectories (store : FileStore) (path : String) : FileStore × Except FileFault Unit :=
  match segments path with
  | .error .missing => (store, .ok ())
  | .error fault => (store, .error fault)
  | .ok parts =>
      let (store, made) := parts.foldl makeSegment (store, .ok (store.start path))
      (store, made.map fun _ => ())

/-- Removes a node and everything below it; says whether there was one. -/
def remove (store : FileStore) (path : String) : FileStore × Bool :=
  match store.find path with
  | .error _ => (store, false)
  | .ok (location, _) =>
      ({ store with nodes := store.nodes.filter fun entry => !location.isPrefixOf entry.1 }, true)

def setMode (store : FileStore) (path : String) (mode : Nat) : Except FileFault FileStore := do
  match ← store.find path with
  | (location, .file content _) => pure (store.put location (.file content mode))
  | (_, .directory) => pure store

/-- The paths below the working directory in their order, those of directories with a slash. -/
def paths (store : FileStore) : List String :=
  let below := store.nodes.filterMap fun (location, node) =>
    if store.here.isPrefixOf location ∧ location ≠ store.here then
      let path := String.intercalate "/" (location.drop store.here.length)
      match node with
      | .directory => some (path ++ "/")
      | .file _ _ => some path
    else none
  below.mergeSort fun a b => decide (a ≤ b)

end FileStore

end CallSite
