import CallSite.Text.Split

/-!
# Module paths

A module is named by the path of its image. Two paths are the same when they have the same
components: repeated and trailing separators do not count, nor does a dot component, except at the
beginning.
-/

namespace CallSite

inductive PathComponent where
  | root
  | current
  | parent
  | name (text : String)
deriving DecidableEq

/-- What a part between slashes stands for when another part is before it. -/
def PathComponent.ofSegment? : List Char → Option PathComponent
  | [] => none
  | ['.'] => none
  | ['.', '.'] => some .parent
  | cs => some (.name (String.ofList cs))

structure ModulePath where
  text : String

namespace ModulePath

/-- The parts between slashes. -/
def segments (p : ModulePath) : List (List Char) :=
  Text.split (· = '/') p.text.toList

def components (p : ModulePath) : List PathComponent :=
  match p.segments with
  | [] => []
  | first :: rest =>
      let tail := rest.filterMap PathComponent.ofSegment?
      match first with
      | [] => if rest.isEmpty then [] else .root :: tail
      | ['.'] => .current :: tail
      | _ => (PathComponent.ofSegment? first).toList ++ tail

def Same (a b : ModulePath) : Prop :=
  a.components = b.components

instance (a b : ModulePath) : Decidable (Same a b) :=
  inferInstanceAs (Decidable (a.components = b.components))

/-- The last component, if it is a name. -/
def fileName? (p : ModulePath) : Option String :=
  match p.components.getLast? with
  | some (.name n) => some n
  | _ => none

/-- The path with an extension appended, never substituted. -/
def extended (p : ModulePath) (extension : String) : ModulePath :=
  ⟨p.text ++ "." ++ extension⟩

/-- Where the map stands that is kept in a file of its own. -/
def sidecar (p : ModulePath) : ModulePath :=
  p.extended "lmp"

/-- Where the readable report stands. -/
def report (p : ModulePath) : ModulePath :=
  p.extended "linemapreport"

end ModulePath

end CallSite
