import FrameworkUpgrade.Codemod.Builtin
import FrameworkUpgrade.Project.Commands
import FrameworkUpgrade.Project.Directory
import FrameworkUpgrade.Project.Installed
import FrameworkUpgrade.Project.Settings
import FrameworkUpgrade.Project.Store
import FrameworkUpgrade.Project.WorkTree
import FrameworkUpgrade.Registry.Client
import FrameworkUpgrade.Terminal.Interview
import FrameworkUpgrade.Upgrade.Run
import FrameworkUpgrade.Upgrade.Summary

/-!
# `FrameworkUpgrade.Session`: an upgrade on a machine

A session finds the project, says whether it has changes that are not committed,
reads its settings, and plays an upgrade in which every call is carried out on the
machine: `Session.carryOut` says how. What Git says is shown and has no other
effect. Where the user may not be asked, the reason is shown.
-/

set_option autoImplicit false

namespace FrameworkUpgrade

open Dialogue (line)

/-- A project that is being upgraded. -/
structure Session where
  project : Project
  settings : Settings
  verbose : Bool
deriving DecidableEq, Repr

namespace Session

/-- The registry of a session. -/
def registry (s : Session) : Registry :=
  .ofBase s.settings.registry

/-- A call of an upgrade, carried out on the machine. -/
def carryOut (s : Session) : (c : Call) → Job c.Reply
  | .release package key => (s.registry.release package key).attempt
  | .published package => (s.registry.published package).attempt
  | .installed package => (Installed.version s.project.directory package).attempt
  | .readManifest => (Store.read s.project.manifestPath).attempt
  | .writeManifest m => (Store.write s.project.manifestPath m).attempt
  | .select question choices => (Interview.select question choices).attempt
  | .confirm question byDefault => (Interview.confirm question byDefault).attempt
  | .install specifiers dev silent =>
    (Commands.install s.settings.manager s.project.directory specifiers dev silent).attempt
  | .transform id directory force verbose =>
    (Commands.transform s.settings.manager id directory force verbose).attempt
  | .recipe r directory =>
    (Commands.recipe s.settings.manager s.verbose r directory).attempt

/-- The lines on whether everything is committed. -/
def workTreeLines : Except ProjectFault Bool → List String
  | .ok true => ["✓ Working directory is clean"]
  | .ok false =>
    ["⚠ Warning: Working directory has uncommitted changes",
      "  Commit or stash them first so codemod edits are easy to review."]
  | .error _ => []

/-- Shows whether everything in a directory is committed, if Git knows. -/
def showWorkTree (directory : String) : Job Unit := do
  match ← (WorkTree.ofPath directory).attempt with
  | .error _ => return ()
  | .ok tree =>
    if ← tree.isInside then
      (workTreeLines (← tree.isClean)).forM line

/-- Whether the user may be asked. Where not, the reason is shown. -/
def mayAsk (e : Environment) : Job Bool := do
  let terminal : Bool ← Job.request .hasTerminal
  match e.unattended? terminal with
  | none => return true
  | some reason =>
    let why := reason.description
    line s!"   Prompts disabled ({why}); every recommended codemod will be applied"
    return false

/-- Shows how an upgrade has ended, unless it ended with a fault. -/
def conclude (m : PackageManager) : Except Fault Outcome → Job Unit
  | .ok (.alreadyCurrent _ _) => return ()
  | .ok (.completed report) => (report.summary m).forM line
  | .error .cancelled => line "\nUpgrade cancelled by user."
  | .error fault => .fail fault

/-- The upgrade of a project at a path to a revision. -/
def upgrade (path revision : String) (verbose : Bool) (e : Environment) : Job Unit := do
  line s!"Upgrading Next.js to '{revision}'..."
  line "\nChecking project..."
  let project ← Project.find path
  line "✓ Found package.json"
  showWorkTree project.directory
  let settings ← Settings.ofProject e project.directory
  line s!"   Registry: {settings.registry}"
  line s!"   Package manager: {settings.manager}"
  let catalog ← Dialogue.demand (Catalog.builtin.mapError .catalog)
  let prompts ← mayAsk e
  let session : Session := { project, settings, verbose }
  let context : Context := { catalog, directory := project.directory, verbose, prompts }
  let outcome ← ((Upgrade.run context revision).interpret session.carryOut).attempt
  conclude settings.manager outcome

end Session

end FrameworkUpgrade
