import CallSite.Command.Program
import Std.Time.Format

/-!
# The command

The outer layer of the program: it takes the files that a run may touch into a store, runs on the
store, and writes what changed.
-/

namespace CallSite.Command

/-- The access rights that a file is taken to have, since they cannot be asked for: those of a
program. -/
def programMode : Nat := 0o755

def currentMoment : IO Moment := do
  let now := Std.Time.DateTime.ofTimestampWithZone (← Std.Time.Timestamp.now) .UTC
  pure ⟨now.format "uuuu-MM-dd", now.format "uuuu-MM-dd'T'HH:mm:ss.SSSSSSSSS" ++ "+00:00"⟩

def currentEnvironment : IO Environment := do
  pure ⟨← IO.getEnv "RUST_LOG", ← IO.getEnv "LINEMAP_LOG_FORMAT", ← IO.getEnv "LINEMAP_LOG_FILE"⟩

/-! ### Taking files into a store -/

def locationText (location : Location) : String :=
  "/" ++ "/".intercalate location

/-- Takes what is at a location into a store. -/
def observe (files : FileStore) (location : Location) : IO FileStore := do
  let place := (← IO.currentDir) / locationText location
  if ← place.isDir then return files.put location .directory
  if ← place.pathExists then
    let content ← IO.FS.readBinFile place
    return files.put location (.file content.toList programMode)
  return files

/-- Takes everything on the way of a path into a store. -/
def observePath (files : FileStore) (path : String) : IO FileStore := do
  let mut files := files
  let mut location := files.start path
  for segment in (FileStore.segments path).toOption.getD [] do
    match files.enter location segment with
    | .ok next =>
        location := next
        files ← observe files location
    | .error _ => return files
  return files

/-- The working directory and everything above it. -/
def emptySurroundings : IO FileStore := do
  let text := (← IO.currentDir).toString
  let here := (FileStore.segments text).toOption.getD [] |>.filter fun name => !name.isEmpty
  let above := (List.range (here.length + 1)).map here.take
  pure ⟨here, above.map fun location => (location, .directory)⟩

/-- The paths that a request may read or write. -/
def pathsOf (request : Request) : List String :=
  match request.path with
  | none => []
  | some path =>
      let output : ModulePath := ⟨request.output.getD path⟩
      [path, output.text, output.sidecar.text, (ModulePath.mk path).report.text]

/-- The files that a run may touch. -/
def surroundings (moment : Moment) (environment : Environment) (request : Request) :
    IO FileStore := do
  let mut files ← emptySurroundings
  for path in pathsOf request do
    files ← observePath files path
  if let some path := (logSettings environment request).file then
    files ← observePath files path
    if let .ok file := LogFile.ofPath moment.date files path then
      files ← observePath files file.directory
      files ← observePath files (file.path moment.date)
  return files

/-! ### Writing what changed -/

def accessRight (bits : Nat) : IO.AccessRight :=
  ⟨bits.testBit 2, bits.testBit 1, bits.testBit 0⟩

def fileRight (mode : Nat) : IO.FileRight :=
  ⟨accessRight (mode / 64), accessRight (mode / 8), accessRight mode⟩

def writeNode (before : FileStore) (location : Location) (node : Node) : IO Unit := do
  let place := (← IO.currentDir) / locationText location
  match node with
  | .directory => IO.FS.createDirAll place
  | .file content mode =>
      IO.FS.writeBinFile place ⟨content.toArray⟩
      if (before.node? location).isNone ∧ mode ≠ FileStore.newFileMode then
        IO.setAccessRights place (fileRight mode)

def writeChanges (before after : FileStore) : IO Unit := do
  for (location, node) in after.nodes do
    if before.node? location ≠ some node then writeNode before location node

/-- A run on the files of the system. -/
def program (arguments : List String) : IO UInt32 := do
  let moment ← currentMoment
  let environment ← currentEnvironment
  let request := (Request.ofArguments arguments).toOption.getD .empty
  let before ← surroundings moment environment request
  let (outcome, after) := run moment environment arguments before
  writeChanges before after
  IO.print outcome.output
  for notice in outcome.notices do
    IO.eprintln (notice.line moment.time)
  pure (UInt32.ofNat outcome.exitCode)

end CallSite.Command

def main (arguments : List String) : IO UInt32 :=
  CallSite.Command.program arguments
