import CallSite.Logging.Settings
import CallSite.Text.Numeral

/-!
# Lines of the log

How an event is written: for people, with colours on a terminal, or as an object for programs.
-/

namespace CallSite

/-! ### Lines for people -/

/-- A text between quotes, with a backslash before quotes and backslashes. -/
def FieldValue.quote (text : String) : String :=
  String.ofList (text.toList.foldr (fun c cs =>
    if c = '"' ∨ c = '\\' then '\\' :: c :: cs else c :: cs) ['"'] |> ('"' :: ·))

def FieldValue.text : FieldValue → String
  | .number n => toString n
  | .shown text => text
  | .quoted text => FieldValue.quote text

namespace Event

/-- How the parts of a line are set off from each other. -/
structure LineStyle where
  time : String → String
  level : Level → String → String
  origin : String → String
  key : String → String

def plainStyle : LineStyle := ⟨id, fun _ => id, id, id⟩

/-- A text in one of the renditions of a terminal, which are known by number. -/
def rendition (number : Nat) (text : String) : String :=
  "\x1b[" ++ toString number ++ "m" ++ text ++ "\x1b[0m"

def levelColour : Level → Nat
  | .error => 31
  | .warn => 33
  | .info => 32
  | .debug => 34
  | .trace => 35

def colouredStyle : LineStyle where
  time := rendition 2
  level := fun level => rendition (levelColour level)
  origin := rendition 2
  key := rendition 3

/-- The level, the origin, the message and the fields. -/
def lineIn (style : LineStyle) (e : Event) : String :=
  let fields := e.fields.map fun (name, value) =>
    " " ++ style.key name ++ style.origin "=" ++ value.text
  style.level e.level (Text.padLeft ' ' 5 e.level.text) ++ " "
    ++ style.origin e.origin ++ style.origin ":" ++ " " ++ e.message ++ String.join fields

/-- The line without a time and without colours. -/
def line (e : Event) : String :=
  e.lineIn plainStyle

def timedLine (style : LineStyle) (time : String) (e : Event) : String :=
  style.time time ++ " " ++ e.lineIn style

/-! ### Objects for programs -/

/-- One character of a text in an object. -/
def escaped (c : Char) : List Char :=
  if c = '"' then ['\\', '"']
  else if c = '\\' then ['\\', '\\']
  else if c = '\n' then ['\\', 'n']
  else if c = '\r' then ['\\', 'r']
  else if c = '\t' then ['\\', 't']
  else if c.toNat = 8 then ['\\', 'b']
  else if c.toNat = 12 then ['\\', 'f']
  else if c.toNat < 32 then
    ['\\', 'u'] ++ (Text.padLeft '0' 4 (Text.lowerHex c.toNat)).toList
  else [c]

def textValue (text : String) : String :=
  "\"" ++ String.ofList (text.toList.flatMap escaped) ++ "\""

def memberValue : FieldValue → String
  | .number n => toString n
  | .shown text => textValue text
  | .quoted text => textValue text

def objectOf (members : List (String × String)) : String :=
  "\x7b" ++ ",".intercalate (members.map fun (name, value) => textValue name ++ ":" ++ value)
    ++ "\x7d"

/-- The event as an object; the message is its first field. -/
def object (time : String) (e : Event) : String :=
  let fields := e.fields.map fun (name, value) => (name, memberValue value)
  objectOf [("timestamp", textValue time), ("level", textValue e.level.text),
    ("fields", objectOf (("message", textValue e.message) :: fields)),
    ("target", textValue e.origin)]

end Event

end CallSite
