import FrameworkUpgrade.Text.Blank

/-!
# `FrameworkUpgrade.Environment`: the variables of a process

The environment is taken once and handed on. It also says whether the user may be
asked. A variable that forbids prompts wins over one that forces them, that one
over the variables by which services that run without a user make themselves
known, and last the input decides: without a terminal nobody answers.
-/

set_option autoImplicit false

namespace FrameworkUpgrade

/-- The variables of a process. -/
structure Environment where
  entries : List (String × String) := []
deriving DecidableEq, Repr

/-- Why the user is not asked. -/
inductive Unattended where
  | forbidden
  | automated (name : String)
  | noTerminal
deriving DecidableEq, Repr

/-- The variable that forbids prompts. -/
def Unattended.forbiddingVariable : String := "NEXT_UPGRADE_NO_TTY"

/-- The variable that forces prompts. -/
def Unattended.forcingVariable : String := "NEXT_UPGRADE_FORCE_TTY"

/-- The variables of services that run without a user. -/
def Unattended.serviceVariables : List String :=
  ["CI", "GITHUB_ACTIONS", "GITLAB_CI", "CIRCLECI", "TRAVIS", "JENKINS_URL", "BUILDKITE", "VERCEL"]

/-- A reason as it is shown. -/
def Unattended.description : Unattended → String
  | .forbidden => s!"{forbiddingVariable} is set"
  | .automated name => s!"CI detected via {name}"
  | .noTerminal => "stdin is not a terminal"

namespace Environment

/-- The value of a variable. -/
def get? (e : Environment) (name : String) : Option String :=
  e.entries.lookup name

/-- Whether a variable is set, be it to nothing. -/
def sets (e : Environment) (name : String) : Bool :=
  (e.get? name).isSome

/-- The value of a variable without the blanks around it, unless nothing is left. -/
def substance? (e : Environment) (name : String) : Option String :=
  (e.get? name).bind fun value =>
    let text := Text.trim value.toList
    if text.isEmpty then none else some (String.ofList text)

/-- The first value among variables that is more than blanks. -/
def firstOf? (e : Environment) (names : List String) : Option String :=
  names.findSome? e.substance?

/-- Why the user is not asked, if there is a reason. -/
def unattended? (e : Environment) (terminal : Bool) : Option Unattended :=
  if e.sets Unattended.forbiddingVariable then some .forbidden
  else if e.sets Unattended.forcingVariable then none
  else match Unattended.serviceVariables.find? e.sets with
    | some name => some (.automated name)
    | none => if terminal then none else some .noTerminal

end Environment

end FrameworkUpgrade
