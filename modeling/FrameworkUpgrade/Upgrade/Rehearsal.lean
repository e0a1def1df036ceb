import FrameworkUpgrade.Registry.Memory
import FrameworkUpgrade.Upgrade.Run

/-!
# `FrameworkUpgrade.Upgrade.Rehearsal`: an upgrade with collaborators in memory

A rehearsal answers every call of an upgrade from values held in memory, keeps the
manifest that is written, and records the calls and the text shown. The faults of
its collaborators are laid down beforehand, and so are the answers of its user:
where an answer is missing the default stands.
-/

set_option autoImplicit false

namespace FrameworkUpgrade

/-- How the user of a rehearsal answers a question with several answers. -/
inductive Selecting where
  | preselected
  | positions (ps : List Nat)
  | cancel
deriving DecidableEq, Repr

/-- The answers of a user, laid down beforehand. An answer that is missing from
`confirms` cancels. -/
structure UserScript where
  selecting : Selecting := .preselected
  confirms : List (Option Bool) := []
  cancelsConfirms : Bool := false
deriving DecidableEq, Repr

namespace UserScript

/-- The positions of the choices that are selected beforehand. -/
def preselected (choices : List Choice) : List Nat :=
  (choices.zipIdx.filter fun (c, _) => c.selected).map Prod.snd

/-- The answer to a question with several answers. -/
def select (u : UserScript) (choices : List Choice) : Except Fault (List Nat) :=
  match u.selecting with
  | .preselected => .ok (preselected choices)
  | .positions ps => .ok ps
  | .cancel => .error .cancelled

/-- The answer to a question of yes or no, and the user without it. -/
def confirm (u : UserScript) (byDefault : Bool) : Except Fault Bool × UserScript :=
  if u.cancelsConfirms then (.error .cancelled, u)
  else match u.confirms with
    | [] => (.ok byDefault, u)
    | none :: rest => (.error .cancelled, { u with confirms := rest })
    | some b :: rest => (.ok b, { u with confirms := rest })

end UserScript

/-- The faults of the collaborators, laid down beforehand. -/
structure Failures where
  read : Option Fault := none
  write : Option Fault := none
  runtimeInstall : Option CommandFault := none
  devInstall : Option CommandFault := none
  transforms : List (String × CommandFault) := []
  recipes : List (Recipe × CommandFault) := []

/-- The collaborators of an upgrade, held in memory, and the record of a run. -/
structure Rehearsal where
  registry : MemoryRegistry
  installed : List (String × Except InstalledFault Version)
  manifest : Manifest
  user : UserScript := {}
  failures : Failures := {}
  directory : String := "/app"
  calls : List Call := []
  output : String := ""

namespace Rehearsal

/-- A reply that is a fault if one is laid down. -/
def refuse (fault : Option Fault) : Except Fault Unit :=
  match fault with
  | some f => .error f
  | none => .ok ()

/-- The installed version of a package. -/
def installedVersion (r : Rehearsal) (package : String) : Except Fault Version :=
  match r.installed.lookup package with
  | some (.ok v) => .ok v
  | some (.error fault) => .error (.installed r.directory fault)
  | none => .error (.installed r.directory (.missing package))

/-- The answer to a call, without the record of it. -/
def reply : (c : Call) → Rehearsal → c.Reply × Rehearsal
  | .release package key, r => (r.registry.release package key, r)
  | .published package, r => (r.registry.published package, r)
  | .installed package, r => (r.installedVersion package, r)
  | .readManifest, r =>
    (match r.failures.read with
      | some fault => .error fault
      | none => .ok r.manifest, r)
  | .writeManifest m, r =>
    match r.failures.write with
    | some fault => (.error fault, r)
    | none => (.ok (), { r with manifest := m })
  | .select _ choices, r => (r.user.select choices, r)
  | .confirm _ byDefault, r =>
    let (answer, user) := r.user.confirm byDefault
    (answer, { r with user })
  | .install _ dev _, r =>
    (refuse ((if dev then r.failures.devInstall else r.failures.runtimeInstall).map .install), r)
  | .transform id _ _ _, r =>
    (refuse ((r.failures.transforms.lookup id).map (.codemod id)), r)
  | .recipe recipe _, r =>
    (refuse ((r.failures.recipes.lookup recipe).map (.codemod recipe.name)), r)

/-- The handler that answers from a rehearsal and records every call and text. -/
def handler : Handler Call.Reply Rehearsal where
  answer c r := reply c { r with calls := r.calls ++ [c] }
  display text r := { r with output := r.output ++ text }

end Rehearsal

end FrameworkUpgrade
