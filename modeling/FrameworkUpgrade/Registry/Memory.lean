import FrameworkUpgrade.Fault
import FrameworkUpgrade.Registry.Release

/-!
# `FrameworkUpgrade.Registry.Memory`: a registry held in memory

A registry of releases by package and key and of publications by package. What is
not in it is unknown to it. Fetches of a failing package all end in the same fault.
-/

set_option autoImplicit false

namespace FrameworkUpgrade

/-- A registry held in memory. Of two entries with the same name the first
counts. -/
structure MemoryRegistry where
  releases : List ((String × String) × Release) := []
  packages : List (String × Published) := []
  failing : List (String × RegistryFault) := []
deriving DecidableEq, Repr

namespace MemoryRegistry

/-- The answer of a registry for a package, unless the package fails. -/
def answer {α : Type} (r : MemoryRegistry) (package : String) (a : Option α) :
    Except Fault (Option α) :=
  match r.failing.lookup package with
  | some fault => .error (.registry fault)
  | none => .ok a

/-- The document of a release. -/
def release (r : MemoryRegistry) (package key : String) : Except Fault (Option Release) :=
  r.answer package (r.releases.lookup (package, key))

/-- What a package has published. -/
def published (r : MemoryRegistry) (package : String) : Except Fault (Option Published) :=
  r.answer package (r.packages.lookup package)

/-- The registry with a release. -/
def withRelease (r : MemoryRegistry) (package key : String) (release : Release) :
    MemoryRegistry :=
  { r with releases := ((package, key), release) :: r.releases }

/-- The document of a release of the framework that wants React by a query. -/
def frameworkRelease (version react : String) : Release :=
  { version := some version
    peers := some (Table.ofEntries [("react", react), ("react-dom", react)])
    dev := Table.ofEntries [("@types/react", "^19.0.0"), ("@types/react-dom", "^19.0.0")] }

/-- The registry with a change to what a package has published. -/
def withPublished (r : MemoryRegistry) (package : String) (f : Published → Published) :
    MemoryRegistry :=
  { r with packages := (package, f ((r.packages.lookup package).getD {})) :: r.packages }

/-- The registry with other versions of a package. -/
def withVersions (r : MemoryRegistry) (package : String) (versions : List String) :
    MemoryRegistry :=
  r.withPublished package fun p => { p with versions }

/-- The registry with a dist-tag of a package. -/
def withTag (r : MemoryRegistry) (package tag version : String) : MemoryRegistry :=
  r.withPublished package fun p => { p with tags := p.tags.insert tag version }

/-- The registry with a package whose fetches all fail. -/
def withFailing (r : MemoryRegistry) (package : String) : MemoryRegistry :=
  { r with failing := (package, .reported s!"HTTP 500: {package}") :: r.failing }

end MemoryRegistry

end FrameworkUpgrade
