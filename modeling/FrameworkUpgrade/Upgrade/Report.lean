import FrameworkUpgrade.Upgrade.Resolve

/-!
# `FrameworkUpgrade.Upgrade.Report`: what an upgrade has done

Once the manifest is written no step ends an upgrade. A step that fails is
recorded with its reason, and the report is clean when none did.
-/

set_option autoImplicit false

namespace FrameworkUpgrade

/-- How a step went. -/
inductive StepResult where
  | succeeded
  | failed (reason : String)
deriving DecidableEq, Repr

namespace StepResult

/-- The result of a step from the reply to its call. -/
def ofReply : Except Fault Unit → StepResult
  | .ok () => .succeeded
  | .error fault => .failed fault.message

/-- Whether a step succeeded. -/
def isSuccess : StepResult → Bool
  | .succeeded => true
  | .failed _ => false

end StepResult

/-- A codemod or a recipe that was applied, and how it went. -/
structure Applied where
  id : String
  result : StepResult
deriving DecidableEq, Repr

/-- A pin that was written, and the version declared before. -/
structure WrittenPin where
  pin : Pin
  previous : Option String
deriving DecidableEq, Repr

/-- What an upgrade has done. -/
structure Report where
  installed : Version
  target : Version
  pinned : List WrittenPin
  turbopack : Bool
  install : StepResult
  codemods : List Applied
  recipes : List Applied
deriving DecidableEq, Repr

/-- How an upgrade ends. -/
inductive Outcome where
  | alreadyCurrent (installed target : Version)
  | completed (report : Report)
deriving DecidableEq, Repr

namespace Report

/-- The codemods and recipes, in the order in which they were applied. -/
def applied (r : Report) : List Applied :=
  r.codemods ++ r.recipes

/-- The codemods and recipes that failed. -/
def failed (r : Report) : List Applied :=
  r.applied.filter fun a => !a.result.isSuccess

/-- Whether every step succeeded. -/
def isClean (r : Report) : Bool :=
  r.install.isSuccess && r.failed.isEmpty

end Report

end FrameworkUpgrade
