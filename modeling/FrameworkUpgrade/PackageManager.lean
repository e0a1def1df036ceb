import FrameworkUpgrade.Text.Blank

/-!
# `FrameworkUpgrade.PackageManager`: the four package managers

Which program installs packages, with which arguments it writes exact versions,
and how it runs a program of a package that is not installed. A manager is known
by the agent that it announces, or by the lock file that it leaves in a project.
-/

set_option autoImplicit false

namespace FrameworkUpgrade

/-- A package manager. -/
inductive PackageManager where
  | npm
  | yarn
  | pnpm
  | bun
deriving DecidableEq, Repr, Inhabited

namespace PackageManager

/-- Every package manager. -/
def all : List PackageManager := [npm, yarn, pnpm, bun]

/-- The program of a manager, which is also its name. -/
def program : PackageManager → String
  | npm => "npm"
  | yarn => "yarn"
  | pnpm => "pnpm"
  | bun => "bun"

instance : ToString PackageManager := ⟨program⟩

/-- The arguments that install packages at exact versions. -/
def addArguments : PackageManager → List String
  | npm => ["install", "--save-exact"]
  | yarn => ["add", "--exact"]
  | pnpm => ["add", "--save-exact"]
  | bun => ["add", "--exact"]

/-- The argument for packages that serve to make the project. -/
def devArgument : PackageManager → String
  | npm => "--save-dev"
  | pnpm => "--save-dev"
  | yarn => "--dev"
  | bun => "--dev"

/-- The arguments that keep a manager from talking. -/
def silentArguments : PackageManager → List String
  | bun => []
  | _ => ["--silent"]

/-- The arguments before the packages to install. -/
def installArguments (m : PackageManager) (dev silent : Bool) : List String :=
  m.addArguments ++ (if dev then [m.devArgument] else [])
    ++ if silent then m.silentArguments else []

/-- The program that runs a program of a package, and the arguments before its
name. -/
def launcher : PackageManager → String × List String
  | npm => ("npx", ["--yes"])
  | yarn => ("yarn", ["dlx"])
  | pnpm => ("pnpm", ["dlx"])
  | bun => ("bunx", [])

/-- The manager of a name. -/
def ofName? (name : List Char) : Option PackageManager :=
  all.find? fun m => m.program.toList == name

/-- The manager that an agent announces: its name, up to the first slash. -/
def ofAgent? (agent : String) : Option PackageManager :=
  ofName? (Text.trim (agent.toList.takeWhile (· != '/')))

/-- The lock files, the first found counts. -/
def lockFiles : List (String × PackageManager) :=
  [("pnpm-lock.yaml", pnpm), ("yarn.lock", yarn), ("bun.lockb", bun), ("bun.lock", bun),
   ("package-lock.json", npm)]

end PackageManager

end FrameworkUpgrade
