import CallSite.Logging.Settings
import CallSite.ModulePath
import CallSite.Session

/-!
# Log files

Log files are kept by the day: the date is appended to the name of the file. Where a directory is
named, a file that has the date in front as well is kept in it.
-/

namespace CallSite

/-- A directory and the name of a file in it, before the date is appended. -/
structure LogFile where
  directory : String
  name : String
deriving DecidableEq

namespace LogFile

/-- A path that ends in a separator of either kind names a directory, whether it exists or not. -/
def namesDirectory (path : String) : Bool :=
  match path.toList.getLast? with
  | some c => c = '/' || c = '\\'
  | none => false

/-- What stands before the last name of a path, the working directory if there is nothing. -/
def parent (path : ModulePath) : String :=
  let before := (path.segments.reverse.dropWhile fun cs => cs = [] || cs = ['.']).tail.reverse
  match before with
  | [] => "."
  | [[]] => "/"
  | _ => String.ofList (['/'].intercalate before)

/-- The file that a path stands for on a day. -/
def ofPath (date : String) (files : FileStore) (path : String) : Except LogFault LogFile :=
  if files.isDirectory path || namesDirectory path then .ok ⟨path, date ++ "-linemap.log"⟩
  else
    match (ModulePath.mk path).fileName? with
    | some name => .ok ⟨parent ⟨path⟩, name⟩
    | none => .error (.unnamedFile path)

/-- Where the lines of a day go. -/
def path (f : LogFile) (date : String) : String :=
  let separator := if f.directory.endsWith "/" then "" else "/"
  f.directory ++ separator ++ f.name ++ "." ++ date

/-- Makes the directory and the file, if they are not there yet. -/
def make (f : LogFile) (date : String) : Session FileFault Unit := do
  Session.makeDirectories f.directory
  if !(← Session.files).isFile (f.path date) then
    Session.change fun files => files.write (f.path date) []

end LogFile

/--
Begins to log: the log file of the settings is made ready, and its path is given. This is done
before a second logging is refused, so the file is there even then.
-/
def startLogging (date : String) (settings : LogSettings) (logging : Bool) :
    Session LogFault (Option String) := do
  let path ← match settings.file with
    | none => pure none
    | some path =>
        match LogFile.ofPath date (← Session.files) path with
        | .error fault => throw fault
        | .ok file => do
            (file.make date).mapFault .file
            pure (some (file.path date))
  if logging then throw .alreadyLogging
  pure path

end CallSite
