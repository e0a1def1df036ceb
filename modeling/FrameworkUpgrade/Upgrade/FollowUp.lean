import FrameworkUpgrade.Upgrade.Resolve

/-!
# `FrameworkUpgrade.Upgrade.FollowUp`: what else a user may want

Three questions may follow the choice of the codemods. Turbopack is offered when
the target supports it and the dev script runs the server without it. The React
19 migration is offered when the project goes from a React below 19 to one that is
not, and with it the migration of the types when the manifest declares them. The
answer yes to any of them is carried out later; nothing is written here. A project
whose users cannot be asked wants nothing else.
-/

set_option autoImplicit false

namespace FrameworkUpgrade

/-- The package whose release drives the upgrade. -/
def frameworkPackage : String := "next"

/-- The package of React. -/
def reactPackage : String := "react"

/-- The package of React for browsers. -/
def reactDomPackage : String := "react-dom"

/-- The package of the types of React. -/
def reactTypes : String := "@types/react"

/-- The package of the types of React for browsers. -/
def reactDomTypes : String := "@types/react-dom"

/-- What a user wants besides the codemods. -/
structure FollowUps where
  turbopack : Bool := false
  recipes : List Recipe := []
deriving DecidableEq, Repr

namespace FollowUp

/-- The oldest version whose development server supports Turbopack. -/
def turbopackSince : Version :=
  { major := 15, minor := 0, patch := 0, pre := ["canary".toList] }

/-- The major version of React that the recipes migrate to. -/
def migratedMajor : Nat := 19

/-- The question for Turbopack. -/
def turbopackQuestion : String := "Enable Turbopack for `next dev`?"

/-- The question for a recipe. -/
def recipeQuestion : Recipe → String
  | .migration => "Would you like to run the React 19 upgrade codemod?"
  | .types => "Would you like to run the React 19 Types upgrade codemod?"

/-- Whether Turbopack is offered. -/
def offersTurbopack (target : Target) (m : Manifest) : Bool :=
  (compare target.version turbopackSince).isGE && m.lacksTurbopack

/-- The major version of React among the pins. -/
def pinnedReact? (pins : List Pin) : Option Nat :=
  (pins.find? (·.package == reactPackage)).map (·.version.major)

/-- Whether the project goes to the React that the recipes migrate to, from one
before it. -/
def crossesMajor (installed : Option Nat) (pinned : Option Nat) : Bool :=
  installed.any (· < migratedMajor) && pinned.any (migratedMajor ≤ ·)

/-- The recipes that are offered. -/
def offeredRecipes (installed : Option Nat) (pins : List Pin) (m : Manifest) : List Recipe :=
  if crossesMajor installed (pinnedReact? pins) then
    if m.declares reactTypes then [.migration, .types] else [.migration]
  else []

/-- The answer to a question to which yes is the default. -/
def confirmed (question : String) : Script Bool := do
  Dialogue.demand (← Script.call (.confirm question true))

/-- The recipes that the user agrees to. -/
def agreedRecipes : List Recipe → Script (List Recipe)
  | [] => .done []
  | r :: rs => do
    let yes ← confirmed (recipeQuestion r)
    let others ← agreedRecipes rs
    return if yes then r :: others else others

/-- Everything that the user wants besides the codemods. -/
def wanted (prompts : Bool) (target : Target) (pins : List Pin) (m : Manifest) :
    Script FollowUps := do
  if !prompts then return {}
  let turbopack ← if offersTurbopack target m then confirmed turbopackQuestion else pure false
  let installed ← Script.call (.installed reactPackage)
  let major := installed.toOption.map Version.major
  let recipes ← agreedRecipes (offeredRecipes major pins m)
  return { turbopack, recipes }

end FollowUp

end FrameworkUpgrade
