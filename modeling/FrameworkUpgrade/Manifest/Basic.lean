import FrameworkUpgrade.Fault
import FrameworkUpgrade.Json.Printer

/-!
# `FrameworkUpgrade.Manifest.Basic`: the manifest of a project

A manifest is the JSON object of `package.json`. Two of its members declare
dependencies, `dependencies` and `devDependencies`, and a section counts only
where it is an object. A package is declared by the first section that has its
name, and its version is the value there when that is a text.

To pin a package is to give it a version in every section that has its name, or
in `dependencies` where no section has it. All else keeps its value and its place.
-/

set_option autoImplicit false

namespace FrameworkUpgrade

/-- The manifest of a project. -/
structure Manifest where
  root : Json.Members
deriving DecidableEq, Repr, Inhabited

namespace Manifest

open Json

/-- The section of the packages that a project runs with. -/
def runtimeSection : String := "dependencies"

/-- The section of the packages that a project is made with. -/
def devSection : String := "devDependencies"

/-- The sections that declare packages, in the order in which they are asked. -/
def sections : List String := [runtimeSection, devSection]

/-- The manifest that a text is. -/
def read (cs : List Char) : Except ManifestTextFault Manifest :=
  match Json.read cs with
  | .error fault => .error (.json fault)
  | .ok (.object ms) => .ok ⟨ms⟩
  | .ok _ => .error .notAnObject

/-- The fault that a text which is no manifest means for an upgrade. -/
def textFault : ManifestTextFault → Fault
  | .json fault => .json fault
  | .notAnObject => .manifest .notAnObject

/-- The text of a manifest, with a line feed at its end. -/
def chars (m : Manifest) : List Char :=
  Json.chars (.object m.root) ++ ['\n']

/-- The text of a manifest, with a line feed at its end. -/
def text (m : Manifest) : String :=
  String.ofList m.chars

/-- The members of a section that is an object. -/
def section? (m : Manifest) (name : String) : Option Members :=
  (Members.find? name m.root).bind Json.members?

/-- What the first section that has a package holds for it. -/
def entry? (m : Manifest) (package : String) : Option Json :=
  sections.findSome? fun name => (m.section? name).bind (Members.find? package)

/-- The version that a manifest declares for a package. -/
def declared? (m : Manifest) (package : String) : Option String :=
  (m.entry? package).bind Json.text?

/-- Whether a manifest declares a version for a package. -/
def declares (m : Manifest) (package : String) : Bool :=
  (m.declared? package).isSome

/-- Whether a section has a package, with whatever value. -/
def sectionHas (m : Manifest) (name package : String) : Bool :=
  (m.section? name).any (Members.has package)

/-- Whether a package is only in the section for making the project. -/
def isDevOnly (m : Manifest) (package : String) : Bool :=
  m.sectionHas devSection package && !m.sectionHas runtimeSection package

/-- Members with the value of a package replaced, where they have the package. -/
def repin (package version : String) (ms : Members) : Members :=
  Members.update package (fun _ => .text version) ms

/-- A section with the value of a package replaced. What is no object stays. -/
def repinSection (package version : String) : Json → Json
  | .object ms => .object (repin package version ms)
  | other => other

/-- A section with a package put into it. What is no object stays. -/
def addTo (package version : String) : Json → Json
  | .object ms => .object (Members.put package (.text version) ms)
  | other => other

/-- The manifest with a package put into the section of the packages that the
project runs with, which is made where there is none. -/
def add (m : Manifest) (package version : String) : Manifest :=
  if Members.has runtimeSection m.root then
    ⟨Members.update runtimeSection (addTo package version) m.root⟩
  else ⟨Members.put runtimeSection (.object [(package, .text version)]) m.root⟩

/-- The manifest with a package pinned to a version. -/
def pin (m : Manifest) (package version : String) : Manifest :=
  if sections.any (m.sectionHas · package) then
    ⟨sections.foldl (fun root name => Members.update name (repinSection package version) root)
      m.root⟩
  else m.add package version

end Manifest

end FrameworkUpgrade
