import FrameworkUpgrade.Codemod.Catalog
import FrameworkUpgrade.Upgrade.Call

/-!
# `FrameworkUpgrade.Upgrade.Plan`: which codemods an upgrade applies

An upgrade goes ahead only to a version newer than the installed one, and then
the codemods of the window between the two are applicable. A user who can be
asked chooses from them, with all of them chosen beforehand, and is not asked when
there are none. The answer is a list of positions in any order, with repetitions
and with positions that do not exist; the codemods chosen come in the order of the
catalog, each once.
-/

set_option autoImplicit false

namespace FrameworkUpgrade

/-- What follows from the installed and the target version. -/
inductive Decision where
  | alreadyCurrent
  | applicable (codemods : List Codemod)
deriving DecidableEq, Repr

namespace Plan

/-- The decision for an installed and a target version. -/
def decide (catalog : Catalog) (installed target : Version) : Decision :=
  if Version.isNewer target installed then .applicable (catalog.window installed target)
  else .alreadyCurrent

/-- The question which codemods to apply. -/
def question : String :=
  "The following codemods are recommended for your upgrade. Select the ones to apply."

/-- A codemod as the user sees it. -/
def choice (c : Codemod) : Choice :=
  { label := s!"(v{c.introduced}) {c.id}", description := c.title, selected := true }

/-- The codemods at the positions of an answer. -/
def atPositions (codemods : List Codemod) (answer : List Nat) : List Codemod :=
  (answer.mergeSort.eraseDups).filterMap (codemods[·]?)

/-- The codemods to apply out of the applicable ones. -/
def chosen (prompts : Bool) (codemods : List Codemod) : Script (List Codemod) :=
  if prompts && !codemods.isEmpty then do
    let reply ← Script.call (.select question (codemods.map choice))
    let answer ← Dialogue.demand reply
    return atPositions codemods answer
  else return codemods

end Plan

end FrameworkUpgrade
