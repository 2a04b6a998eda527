import CallSite.Build.Basic
import CallSite.Image

/-!
# Processing an image

The whole task for one module: its image is read, its atlas collected and stored.
-/

namespace CallSite

/-- The image at a path, if it can be read as one. -/
def openImage (path : String) : Session FeedFault Image := do
  let content ← (Session.readFile path).mapFault .file
  match Image.ofBytes? path content with
  | .ok image => pure image
  | .error fault => throw fault

/-- Builds the map of a module from its own image, and gives the path that it is written to. -/
def process (path : String) (plan : Plan) : Session Fault ModulePath := do
  match Build.new (← Session.files) path plan with
  | .error fault => throw fault
  | .ok b => do
      Session.tell (.loadingSymbols path)
      let image ← (openImage path).mapFault fun fault => .symbols fault.message
      (b.run image.feed).2

end CallSite
