import CallSite.Event

/-!
# Settings of the log

How much is logged, in which format, and whether to a file as well. The environment gives the
format and the file; what is asked for expressly comes before it.
-/

namespace CallSite

/-- Lines for people, or one object a line for programs. -/
inductive LogFormat where
  | pretty
  | json
deriving DecidableEq

/-- Why logging did not begin. -/
inductive LogFault where
  | unknownFormat (name : String)
  | unknownLevel (name : String)
  | unnamedFile (path : String)
  | alreadyLogging
  | file (fault : FileFault)
deriving DecidableEq

def LogFault.message : LogFault → String
  | .unknownFormat name => "Unknown log format: " ++ name ++ ". Use 'pretty' or 'json'"
  | .unknownLevel name =>
      "Unknown log level: " ++ name ++ ". Use 'error', 'warn', 'info', 'debug', or 'trace'"
  | .unnamedFile path => "Invalid log file path: " ++ path
  | .alreadyLogging =>
      "Failed to initialize logging: a global default trace dispatcher has already been set"
  | .file fault => "File logging error: " ++ fault.text

/-- A format by one of its names, in any case. -/
def LogFormat.ofName (name : String) : Except LogFault LogFormat :=
  match name.toLower with
  | "pretty" | "dev" | "development" => .ok .pretty
  | "json" | "prod" | "production" => .ok .json
  | _ => .error (.unknownFormat name)

/-- A level by one of its names, in any case. -/
def Level.ofName (name : String) : Except LogFault Level :=
  match name.toLower with
  | "error" | "err" => .ok .error
  | "warn" | "warning" => .ok .warn
  | "info" => .ok .info
  | "debug" | "dbg" => .ok .debug
  | "trace" => .ok .trace
  | _ => .error (.unknownLevel name)

structure LogSettings where
  /-- What is logged; if there is none, the environment says. -/
  level : Option Level
  format : LogFormat
  /-- A file, or a directory to make one in. -/
  file : Option String
deriving DecidableEq

namespace LogSettings

/-- The settings of an environment. A format without that name counts as none, and so does a file
without a name. -/
def ofEnvironment (format file : Option String) : LogSettings where
  level := none
  format := (format.bind fun name => (LogFormat.ofName name).toOption).getD .pretty
  file := file.filter fun path => !path.isEmpty

/-- The settings with another level, if there is one. -/
def withLevel (s : LogSettings) (level : Option Level) : LogSettings :=
  { s with level := level.or s.level }

/-- The settings with another format, if there is one. -/
def withFormat (s : LogSettings) (format : Option LogFormat) : LogSettings :=
  { s with format := format.getD s.format }

end LogSettings

end CallSite
