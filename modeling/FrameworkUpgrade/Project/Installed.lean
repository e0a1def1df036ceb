import FrameworkUpgrade.Machine.Request
import FrameworkUpgrade.Registry.Document

/-!
# `FrameworkUpgrade.Project.Installed`: which version of a package is installed

A package is installed in a folder of the project's directory, or of a directory
that this one lies in. The nearest one counts. Its version is in its manifest.
-/

set_option autoImplicit false

namespace FrameworkUpgrade

namespace Installed

/-- The folder that packages are installed in. -/
def folder : String := "node_modules"

/-- The manifest of a package that is installed in a directory. -/
def manifestIn (package directory : String) : String :=
  Path.join (Path.join (Path.join directory folder) package) "package.json"

/-- The first path that leads to a file. -/
def firstFile : List String → Job (Option String)
  | [] => return none
  | path :: paths => do
    if ← Job.isFile path then return some path else firstFile paths

/-- The manifest of an installed package. -/
def locate (project package : String) : Job (Option String) :=
  firstFile ((Path.ancestors project).map (manifestIn package))

/-- The version in the manifest of a package. -/
def versionIn (package path : String) (content : Except OsFault String) :
    Except InstalledFault Version :=
  match content with
  | .error cause => .error (.unreadable path cause)
  | .ok text =>
    match installedVersionText text.toList with
    | .error fault => .error (.unparsable path fault)
    | .ok none => .error (.noVersion path)
    | .ok (some raw) => (Version.parse raw).mapError (.invalidVersion package raw)

/-- The installed version of a package, or why it is not known. -/
def find (project package : String) : Job (Except InstalledFault Version) := do
  match ← locate project package with
  | none => return .error (.missing package)
  | some path => return versionIn package path (← Job.readText path)

/-- The installed version of a package. -/
def version (project package : String) : Job Version := do
  match ← find project package with
  | .ok v => return v
  | .error cause => .fail (.installed project cause)

end Installed

end FrameworkUpgrade
