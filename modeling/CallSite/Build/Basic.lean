import CallSite.Build.Collection
import CallSite.Report
import CallSite.Store.Basic

/-!
# Builds

A build collects the atlas of a module from a feed and stores it, in the image or beside it.
-/

namespace CallSite

/-- Where the blob of a build goes: into the image, or into a file beside it. -/
inductive Placement where
  | image
  | beside
deriving DecidableEq

structure Plan where
  placement : Placement
  /-- Whether a report is written too. -/
  report : Bool
  /-- The destination, the module itself if there is none. -/
  output : Option String
deriving DecidableEq

def Plan.default : Plan := ⟨.image, false, none⟩

structure Build where
  path : ModulePath
  plan : Plan
  atlas : Atlas

namespace Build

/-- A build of a module that exists, with nothing collected yet. -/
def new (files : FileStore) (path : String) (plan : Plan) : Except Fault Build :=
  if path.isEmpty then .error (.invalidArgument "module path is empty")
  else if files.isDirectory path then
    .error (.invalidArgument (path ++ " is a directory, not a module"))
  else if files.isFile path then .ok ⟨⟨path⟩, plan, .empty⟩
  else .error (.moduleMissing path)

/-- The destination, before anything is appended to its path. -/
def output (b : Build) : ModulePath :=
  match b.plan.output with
  | some path => ⟨path⟩
  | none => b.path

/-- The build with the atlas of a feed, whatever it had before, and what that came to. -/
def collect (b : Build) (feed : Feed) : Build × Collected :=
  let collected := CallSite.collect b.atlas b.path.text feed
  ({ b with atlas := collected.atlas }, collected)

/-- Puts a blob where the plan says, and gives the path of the file it is in. -/
def storeBlob (b : Build) (blob : Bytes) : Session FileFault ModulePath :=
  match b.plan.placement with
  | .beside => Store.writeSidecar b.output blob
  | .image => do
      Store.embed b.path b.output blob
      pure b.output

def storeReport (b : Build) : Session FileFault Unit := do
  if b.plan.report then
    Session.tell (.writingReport b.path.report.text)
    Session.change fun files =>
      files.write b.path.report.text (Bytes.ofText (Report.render b.atlas))

/-- Stores the atlas collected so far. -/
def store (b : Build) : Session Fault ModulePath := do
  let blob := Blob.encode b.atlas
  Session.tell (.enciphering blob.documentSize blob.compressedSize)
  Session.tell (.encoded blob.bytes.length)
  let written ← (b.storeBlob blob.bytes).asFault
  b.storeReport.asFault
  pure written

/-- Tells what a collection told, and fails if it did. -/
def report (collected : Collected) : Session Fault Unit := do
  Session.tellAll collected.events
  match collected.fault with
  | some fault => throw fault
  | none => pure ()

/-- Collects and then stores; the build is the one after collecting, whether that failed or not. -/
def run (b : Build) (feed : Feed) : Build × Session Fault ModulePath :=
  let (b, collected) := b.collect feed
  (b, do
    report collected
    b.store)

end Build

end CallSite
