import CallSite.Build.Process
import CallSite.Command.Help
import CallSite.Logging.Filter
import CallSite.Logging.Line
import CallSite.Logging.LogFile

/-!
# The program

One run of the command: from its arguments, its environment and the files to an exit code, what is
printed, and the files it leaves.
-/

namespace CallSite.Command

/-- When the program runs, as it is written in names and in lines of the log. -/
structure Moment where
  date : String
  time : String

/-- The variables that the program looks at. -/
structure Environment where
  filter : Option String
  format : Option String
  file : Option String

/-- What goes to the standard error: a plain text or an event. -/
inductive Notice where
  | plain (text : String)
  | told (format : LogFormat) (event : Event)
deriving DecidableEq

/-- The line of an event, in the style that lines for people have. -/
def eventLine (style : Event.LineStyle) (time : String) (format : LogFormat) (event : Event) :
    String :=
  match format with
  | .pretty => event.timedLine style time
  | .json => event.object time

def Notice.line (time : String) : Notice → String
  | .plain text => text
  | .told format event => eventLine Event.colouredStyle time format event

structure Outcome where
  exitCode : Nat
  output : String
  notices : List Notice
deriving DecidableEq

/-- The settings of the log that the environment and the arguments amount to. -/
def logSettings (environment : Environment) (request : Request) : LogSettings :=
  ((LogSettings.ofEnvironment environment.format environment.file).withLevel request.level).withFormat
    request.format

/-- Processes a module and tells how that ended. -/
def task (path : String) (plan : Plan) : Session Fault Unit :=
  tryCatch
    (do
      let written ← process path plan
      Session.tell (.mapWritten written.text))
    fun fault => do
      Session.tell (.runFailed fault)
      throw fault

/-- Adds lines to a log file; a file that cannot be written is left as it is. -/
def keepLines (files : FileStore) (path : String) (lines : List String) : FileStore :=
  let before := (files.read path).toOption.getD []
  let added := lines.flatMap fun line => Bytes.ofText (line ++ "\n")
  (files.write path (before ++ added)).toOption.getD files

/-- Processes a module after logging was begun. -/
def work (moment : Moment) (filter : EventFilter) (format : LogFormat) (logPath : Option String)
    (path : String) (plan : Plan) (files : FileStore) : Outcome × FileStore :=
  let (outcome, files, events) := (task path plan).runOn files
  let shown := events.filter filter.admits
  let exitCode := match outcome with
    | .ok () => 0
    | .error _ => 1
  let files := match logPath with
    | some logPath =>
        keepLines files logPath (shown.map (eventLine Event.plainStyle moment.time format))
    | none => files
  (⟨exitCode, "", shown.map (.told format)⟩, files)

def failed (fault : LogFault) : Outcome :=
  ⟨1, "", [.plain ("Failed to initialize logging: " ++ fault.message)]⟩

/-- A run for arguments that make sense. Without a path it only prints the help. -/
def serve (moment : Moment) (environment : Environment) (request : Request) (files : FileStore) :
    Outcome × FileStore :=
  match request.path with
  | none => (⟨0, helpText, []⟩, files)
  | some path =>
      let settings := logSettings environment request
      match (startLogging moment.date settings false).runOn files with
      | (.error fault, files, _) => (failed fault, files)
      | (.ok logPath, files, _) =>
          work moment (settings.filter environment.filter) settings.format logPath path request.plan
            files

/-- One run of the program. -/
def run (moment : Moment) (environment : Environment) (arguments : List String)
    (files : FileStore) : Outcome × FileStore :=
  match Request.ofArguments arguments with
  | .ok request => serve moment environment request files
  | .error .help => (⟨0, helpText, []⟩, files)
  | .error .version => (⟨0, versionText, []⟩, files)
  | .error (.misuse m) => (⟨2, "", [.plain m.text]⟩, files)

end CallSite.Command
