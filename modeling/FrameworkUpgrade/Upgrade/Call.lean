import FrameworkUpgrade.Dialogue
import FrameworkUpgrade.Manifest.DevScript
import FrameworkUpgrade.Registry.Release

/-!
# `FrameworkUpgrade.Upgrade.Call`: what an upgrade asks of the outside

An upgrade talks to six collaborators: a registry, the packages that are
installed, the store of the manifest, a user who may answer prompts, an installer
and a runner of codemods. `Call` lists everything it may ask of them, and
`Call.Reply` says what each of them may answer. A collaborator may answer any call
with a fault. A `Script` is a dialogue in these calls.
-/

set_option autoImplicit false

namespace FrameworkUpgrade

/-- One entry of a question with several answers. -/
structure Choice where
  label : String
  description : String
  selected : Bool
deriving DecidableEq, Repr

/-- A migration that is published apart from the codemods. -/
inductive Recipe where
  | migration
  | types
deriving DecidableEq, Repr

/-- The name of a recipe in a report. -/
def Recipe.name : Recipe → String
  | .migration => "react-19-migration-recipe"
  | .types => "react-19-types-preset"

/-- What an upgrade asks of the outside. -/
inductive Call where
  | release (package key : String)
  | published (package : String)
  | installed (package : String)
  | readManifest
  | writeManifest (m : Manifest)
  | select (question : String) (choices : List Choice)
  | confirm (question : String) (byDefault : Bool)
  | install (specifiers : List String) (dev silent : Bool)
  | transform (id directory : String) (force verbose : Bool)
  | recipe (r : Recipe) (directory : String)
deriving Repr

/-- What the outside may answer. -/
def Call.Reply : Call → Type
  | .release _ _ => Except Fault (Option Release)
  | .published _ => Except Fault (Option Published)
  | .installed _ => Except Fault Version
  | .readManifest => Except Fault Manifest
  | .writeManifest _ => Except Fault Unit
  | .select _ _ => Except Fault (List Nat)
  | .confirm _ _ => Except Fault Bool
  | .install _ _ _ => Except Fault Unit
  | .transform _ _ _ _ => Except Fault Unit
  | .recipe _ _ => Except Fault Unit

/-- A dialogue with the collaborators of an upgrade. -/
abbrev Script (α : Type) : Type :=
  Dialogue Call.Reply α

/-- The script that makes one call and ends with the reply. -/
abbrev Script.call (c : Call) : Script c.Reply :=
  Dialogue.call c

end FrameworkUpgrade
