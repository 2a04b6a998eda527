import CallSite.Event
import CallSite.FileStore.Basic

/-!
# Sessions

A session works on a file store and tells what it does. Both remain as they are when it fails.
-/

namespace CallSite

structure Surroundings where
  files : FileStore
  /-- What was told, latest first. -/
  told : List Event

abbrev Session (ε : Type) := ExceptT ε (StateM Surroundings)

namespace Session

variable {ε : Type}

def tell (event : Event) : Session ε Unit :=
  modify fun s => { s with told := event :: s.told }

def tellAll (events : List Event) : Session ε Unit :=
  modify fun s => { s with told := events.reverse ++ s.told }

def files : Session ε FileStore := do
  return (← get).files

/-- A change of the store that may fail, and then changes nothing. -/
def change (f : FileStore → Except FileFault FileStore) : Session FileFault Unit := do
  match f (← files) with
  | .ok files => modify fun s => { s with files }
  | .error fault => throw fault

/-- Makes every directory on a path; those that could be made remain if one could not. -/
def makeDirectories (path : String) : Session FileFault Unit := do
  let (files, made) := (← files).makeDirectories path
  modify fun s => { s with files }
  match made with
  | .ok () => pure ()
  | .error fault => throw fault

def readFile (path : String) : Session FileFault Bytes := do
  match (← files).read path with
  | .ok content => pure content
  | .error fault => throw fault

/-- The same session with its fault told in another way. -/
def mapFault {ε' α : Type} (f : ε → ε') (session : Session ε α) : Session ε' α :=
  fun s =>
    match session s with
    | (.ok a, s) => (.ok a, s)
    | (.error fault, s) => (.error (f fault), s)

/-- A file fault as a fault of the whole task. -/
def asFault {α : Type} (session : Session FileFault α) : Session Fault α :=
  session.mapFault .file

/-- The outcome of a session, the store that it leaves and what it told, in order. -/
def runOn {α : Type} (session : Session ε α) (files : FileStore) :
    Except ε α × FileStore × List Event :=
  let (outcome, s) := session.run ⟨files, []⟩
  (outcome, s.files, s.told.reverse)

end Session

end CallSite
