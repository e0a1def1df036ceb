import FrameworkUpgrade.Machine.Request
import FrameworkUpgrade.PackageManager
import FrameworkUpgrade.Text.Utf8
import FrameworkUpgrade.Upgrade.Call

/-!
# `FrameworkUpgrade.Project.Commands`: installing packages, applying codemods

Packages are installed by the package manager, and codemods and recipes are run by
its launcher, all in the directory of the project. A quiet command keeps what it
prints, and its errors are part of the fault when it fails. No packages are
installed without a command.
-/

set_option autoImplicit false

namespace FrameworkUpgrade

namespace Commands

/-- Why a command did not do its work, from what it has left. -/
def faultOf (c : Command) (quiet : Bool) :
    Except OsFault Finished → Except CommandFault Unit
  | .error cause => .error (.notStarted c.program cause)
  | .ok finished =>
    if finished.ending.isSuccess then .ok ()
    else
      let errors := if quiet then Text.trim (Text.Utf8.shown finished.errors) else []
      .error (.failed c.program finished.ending (String.ofList errors))

/-- A command run to its end. -/
def run (c : Command) (quiet : Bool) : Job (Except CommandFault Unit) := do
  let reply : Except OsFault Finished ←
    Job.request (.command c (if quiet then .kept else .shown))
  return faultOf c quiet reply

/-- A command run to its end, which fails in the way that `fault` says. -/
def runOr (fault : CommandFault → Fault) (c : Command) (quiet : Bool) : Job Unit := do
  match ← run c quiet with
  | .ok () => return ()
  | .error cause => .fail (fault cause)

/-! ### Packages -/

/-- The command that installs packages. -/
def installCommand (m : PackageManager) (project : String) (specifiers : List String)
    (dev silent : Bool) : Command :=
  { program := m.program, arguments := m.installArguments dev silent ++ specifiers,
    directory := project }

/-- Installs packages in a project. -/
def install (m : PackageManager) (project : String) (specifiers : List String)
    (dev silent : Bool) : Job Unit :=
  if specifiers.isEmpty then return ()
  else runOr .install (installCommand m project specifiers dev silent) silent

/-! ### Codemods -/

/-- The package of the codemods. -/
def codemodPackage : String := "@next/codemod@latest"

/-- The command that runs a program of a package in a directory. -/
def launch (m : PackageManager) (directory : String) (arguments : List String) : Command :=
  { program := m.launcher.1, arguments := m.launcher.2 ++ arguments, directory }

/-- The arguments that apply a codemod to a directory. -/
def transformArguments (id directory : String) (force verbose : Bool) : List String :=
  [codemodPackage, id, directory] ++ (if force then ["--force"] else [])
    ++ if verbose then ["--verbose"] else []

/-- Applies a codemod to a directory. What it prints is always shown. -/
def transform (m : PackageManager) (id directory : String) (force verbose : Bool) : Job Unit :=
  runOr (.codemod id) (launch m directory (transformArguments id directory force verbose)) false

/-- The arguments that apply a recipe. -/
def recipeArguments : Recipe → List String
  | .migration => ["codemod@latest", "react/19/migration-recipe", "--no-interactive"]
  | .types => ["types-react-codemod@latest", "--yes", "preset-19", "."]

/-- Applies a recipe in a directory. What it prints is shown if that is wanted. -/
def recipe (m : PackageManager) (verbose : Bool) (r : Recipe) (directory : String) : Job Unit :=
  runOr (.codemod r.name) (launch m directory (recipeArguments r)) (!verbose)

end Commands

end FrameworkUpgrade
