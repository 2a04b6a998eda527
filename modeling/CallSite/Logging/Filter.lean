import CallSite.Logging.Settings
import CallSite.Text.Numeral
import CallSite.Text.Split

/-!
# Filters of events

Which events are shown. A filter is written as directives with commas between them: a level, for
all events, or the beginning of an origin and a level for the events from there. For every event
the most specific rule decides.
-/

namespace CallSite

/-- The last level that is let through, none if no event is. -/
abbrev Threshold := Option Level

namespace Threshold

def admits (t : Threshold) (level : Level) : Bool :=
  match t with
  | some last => level.verbosity ≤ last.verbosity
  | none => false

/-- A threshold by its number: zero for none, then the levels in their order. -/
def ofNumber? : Nat → Option Threshold
  | 0 => some none
  | 1 => some (some .error)
  | 2 => some (some .warn)
  | 3 => some (some .info)
  | 4 => some (some .debug)
  | 5 => some (some .trace)
  | _ => none

/-- A threshold by its name in any case, or by its number, perhaps with a sign. -/
def ofChars? (cs : List Char) : Option Threshold :=
  let digits := match cs with
    | '+' :: rest => rest
    | _ => cs
  match Text.decimal? digits with
  | some n => ofNumber? n
  | none =>
      match (String.ofList cs).toLower with
      | "off" => some none
      | "error" => some (some .error)
      | "warn" => some (some .warn)
      | "info" => some (some .info)
      | "debug" => some (some .debug)
      | "trace" => some (some .trace)
      | _ => none

end Threshold

/-! ### Directives -/

/-- A directive as written: `origin[span{field}]=level`, where every part may be missing. -/
structure Directive where
  origin : Option String
  span : Option String
  /-- A field by its name, and whether a value is asked for too. -/
  field : Option (String × Bool)
  threshold : Threshold
deriving DecidableEq

namespace Directive

/-- Reading one directive: in which part, and where in the text that part begins. -/
inductive Stage where
  | start
  | word (first : Nat)
  | span (first : Nat)
  | field (first : Nat)
  | afterField
  | afterSpan
  | level (first : Nat)

def everything : Directive := ⟨none, none, none, some .trace⟩

/-- The characters from one place up to another. -/
def slice (text : List Char) (first next : Nat) : List Char :=
  (text.take next).drop first

/-- What may stand at the beginning of an origin. -/
def mayBegin (c : Char) : Bool :=
  c.isAlphanum || c.toNat ≥ 128 || c = '-' || c = ':' || c = '_'

/-- A field by its name, or by its name and its value. -/
def fieldOf (cs : List Char) : String × Bool :=
  (String.ofList (cs.takeWhile (· ≠ '=')), cs.contains '=')

def step (text : List Char) (state : Stage × Directive) (place : Nat) (c : Char) :
    Option (Stage × Directive) :=
  let (stage, d) := state
  match stage with
  | .start =>
      if c = '[' then some (.span (place + 1), d)
      else if mayBegin c then some (.word place, d)
      else none
  | .word first =>
      let origin := some (String.ofList (slice text first place))
      if c = '=' then some (.level (place + 1), { d with origin })
      else if c = '[' then some (.span (place + 1), { d with origin })
      else some (stage, d)
  | .span first =>
      let name := slice text first place
      if c = ']' then some (.afterSpan, { d with span := some (String.ofList name) })
      else if c = '\x7b' then
        let span := if name.isEmpty then none else some (String.ofList name)
        some (.field (place + 1), { d with span })
      else some (stage, d)
  | .field first =>
      if c = '\x7d' then
        let name := slice text first place
        if name.isEmpty then none
        else some (.afterField, { d with field := some (fieldOf name) })
      else some (stage, d)
  | .afterField => if c = ']' then some (.afterSpan, d) else none
  | .afterSpan => if c = '=' then some (.level (place + 1), d) else none
  | .level _ => some (stage, d)

def steps (text : List Char) :
    Stage × Directive → Nat → List Char → Option (Stage × Directive)
  | state, _, [] => some state
  | state, place, c :: cs =>
      (step text state place c).bind fun state => steps text state (place + 1) cs

/-- The directive when the text is at its end. A single word is a level if there is one of that
name, and an origin otherwise. -/
def finish (text : List Char) : Stage × Directive → Option Directive
  | (.word first, d) =>
      let word := text.drop first
      match Threshold.ofChars? word with
      | some threshold => some { d with origin := none, threshold }
      | none => some { d with origin := some (String.ofList word) }
  | (.level first, d) =>
      let word := text.drop first
      if word.isEmpty then some d
      else (Threshold.ofChars? word).map fun threshold => { d with threshold }
  | (.afterSpan, d) => some d
  | _ => none

def isBlank (c : Char) : Bool :=
  c.isWhitespace || c.toNat = 11 || c.toNat = 12

/--
Reads a directive. Blanks around it do not count when it is divided, but its parts are cut from the
whole text at the places so found: a blank at the beginning shifts them.
-/
def read? (text : List Char) : Option Directive :=
  let core := ((text.dropWhile isBlank).reverse.dropWhile isBlank).reverse
  (steps text (.start, everything) 0 core).bind (finish text)

end Directive

/-! ### Rules -/

/-- What a directive says about events: those from an origin, if there is one, that have a field,
if there is one. -/
structure FilterRule where
  origin : Option String
  field : Option String
  threshold : Threshold
deriving DecidableEq

/-- A directive for a span, or for a value of a field, says nothing about events. -/
def Directive.rule? (d : Directive) : Option FilterRule :=
  match d.span, d.field with
  | none, none => some ⟨d.origin, none, d.threshold⟩
  | none, some (name, false) => some ⟨d.origin, some name, d.threshold⟩
  | _, _ => none

namespace FilterRule

def covers (r : FilterRule) (e : Event) : Bool :=
  let fromOrigin := match r.origin with
    | some origin => origin.toList.isPrefixOf e.origin.toList
    | none => true
  let hasField := match r.field with
    | some name => name = "message" || e.fields.any (·.1 = name)
    | none => true
  fromOrigin && hasField

/-- Compares two optional parts; the missing one is the least. -/
def comparePart (f : String → String → Ordering) : Option String → Option String → Ordering
  | none, none => .eq
  | none, some _ => .lt
  | some _, none => .gt
  | some a, some b => f a b

/-- How specific a rule is: by the length of its origin, then by its field, then by the texts. -/
def compare (a b : FilterRule) : Ordering :=
  (comparePart (fun a b => Ord.compare a.utf8ByteSize b.utf8ByteSize) a.origin b.origin).then <|
  (comparePart (fun _ _ => .eq) a.field b.field).then <|
  (comparePart Ord.compare a.origin b.origin).then <|
  comparePart Ord.compare a.field b.field

end FilterRule

/-- The rules in the order in which they were given. -/
structure EventFilter where
  rules : List FilterRule
deriving DecidableEq

namespace EventFilter

/-- Lets all events up to a level through. -/
def upTo (level : Level) : EventFilter :=
  ⟨[⟨none, none, some level⟩]⟩

/-- The most specific rule for an event, the last one given if several are. -/
def rule? (f : EventFilter) (e : Event) : Option FilterRule :=
  (f.rules.filter (·.covers e)).foldl (fun best r =>
    match best with
    | some b => if (b.compare r).isGT then best else some r
    | none => some r) none

def admits (f : EventFilter) (e : Event) : Bool :=
  match f.rule? e with
  | some r => r.threshold.admits e.level
  | none => false

/-- Reads a filter, which has to be right throughout. Without any directive only errors pass. -/
def read? (text : String) : Option EventFilter := do
  let parts := (Text.split (· = ',') text.toList).filter fun part => !part.isEmpty
  let directives ← parts.mapM Directive.read?
  if directives.isEmpty then pure (.upTo .error)
  else pure ⟨directives.filterMap Directive.rule?⟩

end EventFilter

/-- The filter of the settings: up to their level if they have one, else the one that is requested,
else up to the level of information. -/
def LogSettings.filter (s : LogSettings) (request : Option String) : EventFilter :=
  match s.level with
  | some level => .upTo level
  | none => (request.bind EventFilter.read?).getD (.upTo .info)

end CallSite
