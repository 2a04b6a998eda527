import CallSite.Atlas.Basic
import CallSite.Event
import CallSite.ModulePath

/-!
# Resolvers

A resolver answers call sites of many modules. It asks for the atlas of a module once and remembers
the answer, also that there is none; a fault counts as none. Paths of the same components name the
same module.
-/

namespace CallSite

/-- What is remembered for a module: its atlas, or that it has none. -/
structure Resolver where
  cache : List (ModulePath × Option Atlas)

namespace Resolver

def empty : Resolver := ⟨[]⟩

def cached? (r : Resolver) (path : ModulePath) : Option (Option Atlas) :=
  (r.cache.find? fun entry => decide (entry.1.Same path)).map (·.2)

/-- Puts an answer in the place of the one for the same module, or after all others. -/
def remember (r : Resolver) (path : ModulePath) (answer : Option Atlas) : Resolver :=
  let rec place : List (ModulePath × Option Atlas) → List (ModulePath × Option Atlas)
    | [] => [(path, answer)]
    | entry :: rest =>
        if entry.1.Same path then (entry.1, answer) :: rest else entry :: place rest
  ⟨place r.cache⟩

def insert (r : Resolver) (path : ModulePath) (atlas : Atlas) : Resolver :=
  r.remember path (some atlas)

/-- For how many modules an answer is remembered. -/
def size (r : Resolver) : Nat :=
  r.cache.length

/-- What an atlas that was asked for came to, and what there is to tell of it. -/
def ofLoad (path : ModulePath) : Except Fault (Option Atlas) → Option Atlas × List Event
  | .ok (some atlas) => (some atlas, [])
  | .ok none => (none, [.noMap path.text])
  | .error fault => (none, [.mapUnreadable path.text fault])

variable {m : Type → Type} [Monad m]

/-- The atlas of a module, asked for with `load` if nothing is remembered. -/
def atlas (load : ModulePath → m (Except Fault (Option Atlas))) (tell : Event → m Unit)
    (path : ModulePath) (r : Resolver) : m (Option Atlas × Resolver) :=
  match r.cached? path with
  | some answer => pure (answer, r)
  | none => do
      let (answer, events) := ofLoad path (← load path)
      events.forM tell
      pure (answer, r.remember path answer)

/-- The position of a call site. One that an atlas does not know is told of. -/
def resolve (load : ModulePath → m (Except Fault (Option Atlas))) (tell : Event → m Unit)
    (path : ModulePath) (id : SymbolId) (offset : Int64) (r : Resolver) :
    m (Option Position × Resolver) := do
  let (found, r) ← r.atlas load tell path
  match found with
  | none => pure (none, r)
  | some atlas =>
      match atlas.locate id offset with
      | some position => pure (some position, r)
      | none => do
          tell (.unresolved path.text id offset)
          pure (none, r)

end Resolver

end CallSite
