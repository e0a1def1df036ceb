import FrameworkUpgrade.Machine.Request
import FrameworkUpgrade.Manifest.Basic

/-!
# `FrameworkUpgrade.Project.Store`: the manifest in a file

Reading and writing the manifest of a project. The file is written as a whole.
-/

set_option autoImplicit false

namespace FrameworkUpgrade

namespace Store

/-- The manifest in a text that was read from a path. -/
def manifestOf (path : String) (content : Except OsFault String) :
    Except ManifestFault Manifest :=
  match content with
  | .error cause => .error (.unreadable path cause)
  | .ok text => (Manifest.read text.toList).mapError (.unparsable path)

/-- The manifest in the file under a path. -/
def read (path : String) : Job Manifest := do
  match manifestOf path (← Job.readText path) with
  | .ok manifest => return manifest
  | .error fault => .fail (.manifest fault)

/-- Writes a manifest into the file under a path. -/
def write (path : String) (m : Manifest) : Job Unit := do
  let reply : Except OsFault Unit ← Job.request (.write path m.text)
  match reply with
  | .ok () => return ()
  | .error cause => .fail (.manifest (.unwritable path cause))

end Store

end FrameworkUpgrade
