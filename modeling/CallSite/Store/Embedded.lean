import CallSite.Object.Image
import CallSite.Session
import CallSite.ModulePath
import CallSite.Trailer

/-!
# Blobs in images

A blob is embedded in an image as its trailer. Other tools may put it into a section, which is
looked at when there is no trailer.
-/

namespace CallSite.Store

def sectionNames : List String := [".lmpdata", "__lmpdata"]

/-- The content of a section for blobs; an unreadable one is told of. -/
def sectionBlob (image : Bytes) : Option Bytes × List Event :=
  let found := do
    let file ← ObjectFile.read? image
    sectionNames.findSome? file.section?
  match found with
  | none => (none, [])
  | some s =>
      match s.content.read? with
      | some window => (some window.toBytes, [])
      | none => (none, [.sectionUnreadable "unreadable section"])

/-- The blob in an image: the one of its trailer, or else the one of a section. -/
def imageBlob (image : Bytes) : Option Bytes × List Event :=
  match Trailer.find? image with
  | some blob => (some blob, [])
  | none => sectionBlob image

/-- The blob in the image at a path. -/
def readEmbedded (path : ModulePath) : Session FileFault (Option Bytes) := do
  let image ← Session.readFile path.text
  match ← liftM (Trailer.read (.ofBytes image)) with
  | some blob => pure (some blob)
  | none => do
      let (blob, events) := sectionBlob image
      Session.tellAll events
      pure blob

/-- Writes the image at a path with a blob in it to an output. Another output is made a copy of the
image first, so that it has the same access rights. -/
def embed (path output : ModulePath) (blob : Bytes) : Session FileFault Unit := do
  Session.tell .writingTrailer
  let image ← Session.readFile path.text
  if !decide (path.Same output) then
    Session.change fun files => files.copy path.text output.text
  Session.change fun files => files.write output.text (Trailer.append image blob)

end CallSite.Store
