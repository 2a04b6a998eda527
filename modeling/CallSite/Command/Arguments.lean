import CallSite.Build.Basic
import CallSite.Command.Spelling
import CallSite.Logging.Settings

/-!
# Arguments

The arguments of the command: the path of a module, switches, and settings with a value. A value is
looked at only when the next argument is understood, or when there is none; so an argument that is
unknown is complained of before a bad value in front of it.
-/

namespace CallSite.Command

/-- Where the map is to go. -/
inductive Mode where
  | file
  | resource
  | apiResource
deriving DecidableEq

inductive Switch where
  | report
  | mode (m : Mode)
  | help
  | version
deriving DecidableEq

/-- Arguments that have a value. -/
inductive Setting where
  | output
  | level
  | format
deriving DecidableEq

def Switch.title : Switch → String
  | .report => "--report"
  | .mode .file => "--file"
  | .mode .resource => "--resource"
  | .mode .apiResource => "--api-resource"
  | .help => "--help"
  | .version => "--version"

def Switch.named? : String → Option Switch
  | "report" => some .report
  | "file" => some (.mode .file)
  | "resource" => some (.mode .resource)
  | "api-resource" => some (.mode .apiResource)
  | "help" => some .help
  | "version" => some .version
  | _ => none

def Switch.lettered? : Char → Option Switch
  | 'h' => some .help
  | 'V' => some .version
  | _ => none

def Setting.title : Setting → String
  | .output => "--out <PATH>"
  | .level => "--log-level <LEVEL>"
  | .format => "--log-format <FORMAT>"

def Setting.named? : String → Option Setting
  | "out" => some .output
  | "log-level" => some .level
  | "log-format" => some .format
  | _ => none

/-- The place of the module's path among the arguments. -/
def pathTitle : String := "[MODULE]"

/-! ### Misuse -/

inductive Misuse where
  | unexpected (argument : String)
  | repeated (title : String)
  | noValue (title : String)
  | badValue (title value : String) (fault : LogFault)
  | needlessValue (title value : String)
deriving DecidableEq

def Misuse.message : Misuse → String
  | .unexpected argument => "unexpected argument '" ++ argument ++ "' found"
  | .repeated title => "the argument '" ++ title ++ "' cannot be used multiple times"
  | .noValue title => "a value is required for '" ++ title ++ "' but none was supplied"
  | .badValue title value fault =>
      "invalid value '" ++ value ++ "' for '" ++ title ++ "': " ++ fault.message
  | .needlessValue title value =>
      "unexpected value '" ++ value ++ "' for '" ++ title ++ "' found; no more were expected"

/-- Why reading the arguments ended before the last: something else was asked for, or they make no
sense. -/
inductive Halt where
  | help
  | version
  | misuse (m : Misuse)
deriving DecidableEq

/-! ### Requests -/

/-- What the arguments ask for. -/
structure Request where
  path : Option String
  report : Bool
  mode : Option Mode
  output : Option String
  level : Option Level
  format : Option LogFormat
deriving DecidableEq

namespace Request

def empty : Request := ⟨none, false, none, none, none, none⟩

def plan (r : Request) : Plan where
  placement := if r.mode = some .file then .beside else .image
  report := r.report
  output := r.output

/-- Turns a switch on. Each of the modes undoes the others, but none may follow itself. -/
def turn (r : Request) (s : Switch) : Except Halt Request :=
  match s with
  | .report => if r.report then .error (.misuse (.repeated s.title)) else .ok { r with report := true }
  | .mode m =>
      if r.mode = some m then .error (.misuse (.repeated s.title)) else .ok { r with mode := some m }
  | .help => .error .help
  | .version => .error .version

/-- Whether a setting has a value already. -/
def has (r : Request) : Setting → Bool
  | .output => r.output.isSome
  | .level => r.level.isSome
  | .format => r.format.isSome

/-- Gives a setting its value, which it may have only once. -/
def assign (r : Request) (s : Setting) (value : String) : Except Halt Request :=
  if r.has s then .error (.misuse (.repeated s.title))
  else
    match s with
    | .output =>
        if value.isEmpty then .error (.misuse (.noValue s.title))
        else .ok { r with output := some value }
    | .level =>
        match Level.ofName value with
        | .ok level => .ok { r with level := some level }
        | .error fault => .error (.misuse (.badValue s.title value fault))
    | .format =>
        match LogFormat.ofName value with
        | .ok format => .ok { r with format := some format }
        | .error fault => .error (.misuse (.badValue s.title value fault))

def assignPath (r : Request) (path : String) : Except Halt Request :=
  if path.isEmpty then .error (.misuse (.noValue pathTitle)) else .ok { r with path := some path }

end Request

/-! ### Reading -/

/-- What was met last and is not part of the request yet. -/
inductive Pending where
  | nothing
  /-- The next argument is the value of a setting. -/
  | wanting (s : Setting)
  | value (s : Setting) (text : String)
  | path (text : String)
deriving DecidableEq

structure Reader where
  request : Request
  pending : Pending
deriving DecidableEq

namespace Reader

def start : Reader := ⟨.empty, .nothing⟩

/-- Makes what is pending part of the request. -/
def settle (r : Reader) : Except Halt Request :=
  match r.pending with
  | .nothing => .ok r.request
  | .wanting s => .error (.misuse (.noValue s.title))
  | .value s text => r.request.assign s text
  | .path text => r.request.assignPath text

/-- Whether the path was given, settled or not. -/
def hasPath (r : Reader) : Bool :=
  match r.pending with
  | .path _ => true
  | _ => r.request.path.isSome

def operand (r : Reader) (text : String) : Except Halt Reader := do
  if r.hasPath then throw (.misuse (.unexpected text))
  pure ⟨← r.settle, .path text⟩

/-- An argument that is no switch and no setting. -/
def word (r : Reader) (text : String) : Except Halt Reader :=
  match r.pending with
  | .wanting s => .ok { r with pending := .value s text }
  | _ => r.operand text

def switch (r : Reader) (s : Switch) : Except Halt Reader := do
  pure ⟨← (← r.settle).turn s, .nothing⟩

/-- An argument after two dashes: a name, perhaps with a value behind an equals sign. -/
def long (r : Reader) (cs : List Char) : Except Halt Reader :=
  let name := String.ofList (cs.takeWhile (· ≠ '='))
  let value := match cs.dropWhile (· ≠ '=') with
    | [] => none
    | _ :: rest => some (String.ofList rest)
  match Switch.named? name, Setting.named? name, value with
  | some s, _, none => r.switch s
  | some s, _, some value => .error (.misuse (.needlessValue s.title value))
  | none, some s, none => do pure ⟨← r.settle, .wanting s⟩
  | none, some s, some value => do pure ⟨← (← r.settle).assign s value, .nothing⟩
  | none, none, _ => .error (.misuse (.unexpected ("--" ++ name)))

/-- A letter after one dash. All letters end the reading, so the first is the only one. -/
def short (r : Reader) (c : Char) : Except Halt Reader :=
  match Switch.lettered? c with
  | some s => r.switch s
  | none => .error (.misuse (.unexpected (String.ofList ['-', c])))

def argument (r : Reader) (text : String) : Except Halt Reader :=
  match text.toList with
  | '-' :: '-' :: cs => r.long cs
  | '-' :: c :: _ => r.short c
  | _ => r.word text

/-- All arguments; those after a lone pair of dashes are operands. -/
def read : Reader → List String → Except Halt Request
  | r, [] => r.settle
  | r, text :: rest =>
      if text = "--" then do (← rest.foldlM operand r).settle
      else do read (← r.argument text) rest

end Reader

/-- Reads arguments in the spelling of today. -/
def parse (arguments : List String) : Except Halt Request :=
  Reader.start.read arguments

/-- Reads arguments in either spelling. -/
def Request.ofArguments (arguments : List String) : Except Halt Request :=
  parse (modernize arguments)

end CallSite.Command
