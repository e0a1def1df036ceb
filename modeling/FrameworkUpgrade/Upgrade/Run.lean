import FrameworkUpgrade.Upgrade.FollowUp
import FrameworkUpgrade.Upgrade.Plan
import FrameworkUpgrade.Upgrade.Report

/-!
# `FrameworkUpgrade.Upgrade.Run`: one upgrade

An upgrade has three parts. The first resolves the target, compares it with the
installed version, reads the manifest, pins the peers and asks the user; any fault
in it ends the upgrade and leaves the project as it was. The second writes the
manifest, once. The third installs the packages and applies the codemods and the
recipes; a fault in it is recorded, and the next step follows.

React comes from the peer dependencies of the target, and `react-dom` is always
at the version of React. The types come from its dev dependencies, and only those
that the project declares.
-/

set_option autoImplicit false

namespace FrameworkUpgrade

open Dialogue (line)

/-- What an upgrade is given besides the revision. -/
structure Context where
  catalog : Catalog
  directory : String
  verbose : Bool
  prompts : Bool

namespace Upgrade

/-- The wanted package of a name in a table, if the table has the name. -/
def wantedFrom (t : Table) (package : String) : Option Wanted :=
  (t.find? package).map fun query => ⟨package, query⟩

/-- The packages that a target wants beside itself. -/
def wantedPeers (target : Target) (m : Manifest) : List Wanted :=
  (wantedFrom target.peers reactPackage).toList
    ++ ([reactTypes, reactDomTypes].filter (m.declares ·)).filterMap (wantedFrom target.dev)

/-- The pins with `react-dom` right after React, at its version. -/
def withReactDom (pins : List Pin) : List Pin :=
  pins.flatMap fun p => if p.package = reactPackage then [p, ⟨reactDomPackage, p.version⟩] else [p]

/-- All that is known before anything is written. -/
structure Prepared where
  installed : Version
  target : Version
  manifest : Manifest
  pins : List Pin
  codemods : List Codemod
  followUps : FollowUps

/-- The first part when the target is newer: pins, codemods and answers. -/
def prepareNewer (x : Context) (target : Target) (installed : Version)
    (applicable : List Codemod) : Script Prepared := do
  line s!"   {frameworkPackage} {installed} → {target.version}"
  let manifest ← Dialogue.demand (← Script.call .readManifest)
  line "\n3. Resolving compatible peer dependency versions..."
  let peers := withReactDom (← Resolve.peers (wantedPeers target manifest))
  peers.forM fun p => line s!"   • {p.specifier}"
  line "\n4. Selecting codemods..."
  let codemods ← Plan.chosen x.prompts applicable
  let followUps ← FollowUp.wanted x.prompts target peers manifest
  line (if codemods.isEmpty then "   No codemods to apply"
    else s!"   {codemods.length} codemod(s) selected")
  return { installed, target := target.version, manifest, codemods, followUps,
           pins := ⟨frameworkPackage, target.version⟩ :: peers }

/-- The manifest with the pins written into it one after another, and each pin
with the version declared before it. -/
def pinAll (m : Manifest) : List Pin → Manifest × List WrittenPin
  | [] => (m, [])
  | p :: ps =>
    let (pinned, written) := pinAll (m.pin p.package p.version.text) ps
    (pinned, ⟨p, m.declared? p.package⟩ :: written)

/-- The manifest to write, the pins in it, and whether its dev script changed. -/
def revised (p : Prepared) : Manifest × List WrittenPin × Bool :=
  let (pinned, written) := pinAll p.manifest p.pins
  if p.followUps.turbopack then
    let (m, changed) := pinned.enableTurbopack
    (m, written, changed)
  else (pinned, written, false)

/-- The specifiers of the pins that are installed together, for making the
project or for running it. -/
def installGroup (m : Manifest) (pins : List Pin) (dev : Bool) : List String :=
  (pins.filter fun p => m.isDevOnly p.package == dev).map Pin.specifier

/-- The reasons why groups of packages are not installed. An empty group needs no
call. -/
def installGroups (silent : Bool) : List (List String × Bool) → Script (List String)
  | [] => .done []
  | (specifiers, dev) :: groups => do
    if specifiers.isEmpty then installGroups silent groups
    else
      let reply ← Script.call (.install specifiers dev silent)
      let others ← installGroups silent groups
      match reply with
      | .ok () => return others
      | .error fault => return fault.message :: others

/-- The installation of all pins, first those for running the project. -/
def install (x : Context) (m : Manifest) (pins : List Pin) : Script StepResult := do
  let failures ← installGroups (!x.verbose)
    [(installGroup m pins false, false), (installGroup m pins true, true)]
  return if failures.isEmpty then .succeeded else .failed ("; ".intercalate failures)

/-- The lines about the installation. -/
def showInstall : StepResult → Script Unit
  | .succeeded => line "✓ Packages installed"
  | .failed reason => do
    line s!"✗ {reason}"
    line ("  package.json already lists the new versions; "
      ++ "re-run your package manager's install to finish.")

/-- One codemod or recipe: its name, its call, and a line on how it went. -/
def apply (id : String) (call : Script (Except Fault Unit)) : Script Applied := do
  line s!"   → {id}"
  let result := StepResult.ofReply (← call)
  match result with
  | .succeeded => line "     ✓ applied"
  | .failed reason => line s!"     ✗ {reason}"
  return ⟨id, result⟩

/-- The codemods, one after another. -/
def applyCodemods (x : Context) : List Codemod → Script (List Applied)
  | [] => .done []
  | c :: cs => do
    let a ← apply c.id (Script.call (.transform c.id x.directory true x.verbose))
    let others ← applyCodemods x cs
    return a :: others

/-- The recipes, one after another. -/
def applyRecipes (x : Context) : List Recipe → Script (List Applied)
  | [] => .done []
  | r :: rs => do
    let a ← apply r.name (Script.call (.recipe r x.directory))
    let others ← applyRecipes x rs
    return a :: others

/-- The third part: what comes after the manifest is written. -/
def carryOut (x : Context) (p : Prepared) (written : Manifest) (pinned : List WrittenPin)
    (turbopack : Bool) : Script Report := do
  line "✓ package.json updated"
  line "\n6. Installing packages..."
  let install ← install x written p.pins
  showInstall install
  line "\n7. Applying codemods..."
  let codemods ← applyCodemods x p.codemods
  let recipes ← applyRecipes x p.followUps.recipes
  return { installed := p.installed, target := p.target, pinned, turbopack, install, codemods,
           recipes }

/-- The second part and what follows it. -/
def commit (x : Context) (p : Prepared) : Script Report := do
  line "\n5. Updating package.json..."
  let (manifest, pinned, turbopack) := revised p
  Dialogue.demand (← Script.call (.writeManifest manifest))
  carryOut x p manifest pinned turbopack

/-- An upgrade to a revision. -/
def run (x : Context) (token : String) : Script Outcome := do
  line "\n1. Resolving target revision..."
  let target ← Resolve.target frameworkPackage token
  line s!"✓ Target version: {frameworkPackage}@{target.version}"
  line "\n2. Comparing with the installed version..."
  let installed ← Dialogue.demand (← Script.call (.installed frameworkPackage))
  match Plan.decide x.catalog installed target.version with
  | .alreadyCurrent =>
    line (s!"✓ Current Next.js version v{installed} is already on or higher than the target "
      ++ s!"version v{target.version}")
    return .alreadyCurrent installed target.version
  | .applicable codemods =>
    let prepared ← prepareNewer x target installed codemods
    return .completed (← commit x prepared)

end Upgrade

end FrameworkUpgrade
