import FrameworkUpgrade.Machine.Request

/-!
# `FrameworkUpgrade.Project.Directory`: where a project is

A project is a directory with a manifest. Its path is freed of links first; what is
no directory is refused, then a directory of the system and all in it, and last a
directory without a manifest.
-/

set_option autoImplicit false

namespace FrameworkUpgrade

/-- A project: the path of its directory, free of links. -/
structure Project where
  directory : String
deriving DecidableEq, Repr

namespace Project

/-- The name of the manifest. -/
def manifestName : String := "package.json"

/-- The path of the manifest of a project. -/
def manifestPath (p : Project) : String :=
  Path.join p.directory manifestName

/-- The directories of the system, in which no project is upgraded. -/
def systemDirectories : List String := ["/etc", "/sys", "/proc", "/dev", "/boot"]

/-- The directory of the system that a path lies in. -/
def systemDirectory? (path : String) : Option String :=
  systemDirectories.find? (Path.liesIn · path)

/-- Ends a job with a fault of the project. -/
def refuse {α : Type} (fault : ProjectFault) : Job α :=
  .fail (.project fault)

/-- The project that a path leads to. -/
def find (path : String) : Job Project := do
  let reply : Except OsFault String ← Job.request (.canonical path)
  match reply with
  | .error cause => refuse (.unreachable path cause)
  | .ok directory =>
    if !(← Job.isDirectory directory) then refuse (.notADirectory directory)
    else match systemDirectory? directory with
      | some system => refuse (.systemDirectory system)
      | none =>
        let project : Project := ⟨directory⟩
        if ← Job.isFile project.manifestPath then return project
        else refuse (.noManifest directory)

end Project

end FrameworkUpgrade
