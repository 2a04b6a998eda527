import CallSite.Blob.Basic
import CallSite.Store.Embedded

/-!
# Stored blobs

The blob of a module is in its image or in a file beside it. What is in the image comes first.
-/

namespace CallSite.Store

/-- Writes a blob to the file beside a module. -/
def writeSidecar (path : ModulePath) (blob : Bytes) : Session FileFault ModulePath := do
  Session.tell (.writingSidecar path.sidecar.text)
  Session.change fun files => files.write path.sidecar.text blob
  pure path.sidecar

/-- A value, or none where something is missing. -/
def orNone {α : Type} (session : Session FileFault (Option α)) : Session FileFault (Option α) :=
  tryCatch session fun
    | .missing => pure none
    | fault => throw fault

def readSidecar (path : ModulePath) : Session FileFault (Option Bytes) :=
  orNone (some <$> Session.readFile path.sidecar.text)

/-- The blob of a module. The image itself may be missing. -/
def readBlob (path : ModulePath) : Session FileFault (Option Bytes) := do
  match ← orNone (readEmbedded path) with
  | some blob => pure (some blob)
  | none => readSidecar path

/-- The atlas of a module, none if nothing is stored for it. -/
def load (path : ModulePath) : Session Fault (Option Atlas) := do
  match ← (readBlob path).asFault with
  | none => pure none
  | some blob =>
      match Blob.decode blob with
      | .ok atlas => pure (some atlas)
      | .error fault => throw (.blob fault)

end CallSite.Store
