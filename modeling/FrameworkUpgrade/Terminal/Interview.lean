import FrameworkUpgrade.Machine.Request
import FrameworkUpgrade.Upgrade.Call

/-!
# `FrameworkUpgrade.Terminal.Interview`: asking the user at the terminal

The two questions of an upgrade, put to the user of a machine. The entries of a
question with several answers are shown before it is asked. A user who cancels a
prompt cancels the upgrade.
-/

set_option autoImplicit false

namespace FrameworkUpgrade

namespace Interview

/-- The answer to a prompt. -/
def answerOf {α : Type} : Except OsFault (Option α) → Except Fault α
  | .error cause => .error (.os cause)
  | .ok none => .error .cancelled
  | .ok (some a) => .ok a

/-- Asks a question of yes or no. -/
def confirm (question : String) (byDefault : Bool) : Job Bool := do
  let reply : Except OsFault (Option Bool) ← Job.request (.confirm question byDefault)
  Dialogue.demand (answerOf reply)

/-- Asks a question with several answers. -/
def select (question : String) (choices : List Choice) : Job (List Nat) := do
  choices.forM fun c => Dialogue.line s!"  {c.label} {c.description}"
  let reply : Except OsFault (Option (List Nat)) ←
    Job.request (.menu question (choices.map Choice.label) (choices.map Choice.selected))
  Dialogue.demand (answerOf reply)

end Interview

end FrameworkUpgrade
