import FrameworkUpgrade.Environment
import FrameworkUpgrade.Machine.Request
import FrameworkUpgrade.PackageManager
import FrameworkUpgrade.Url.Reader

/-!
# `FrameworkUpgrade.Project.Settings`: which registry, which package manager

The registry is named by a variable of the environment, else by the settings file
of the project, else it is the public one. It has to be a URL of the web, and it is
used as it was written, without slashes at the end. The package manager is the one
that announces itself in the environment, else the one that has left a lock file in
the project, else the first of all.
-/

set_option autoImplicit false

namespace FrameworkUpgrade

/-- The settings of a project. -/
structure Settings where
  registry : String
  manager : PackageManager
deriving DecidableEq, Repr

namespace Settings

/-- The public registry. -/
def publicRegistry : String := "https://registry.npmjs.org"

/-- The variables that name a registry. -/
def registryVariables : List String := ["npm_config_registry", "NPM_CONFIG_REGISTRY"]

/-- The variable by which a package manager announces itself. -/
def agentVariable : String := "npm_config_user_agent"

/-- The name of the settings file. -/
def fileName : String := ".npmrc"

/-- The key of the registry in the settings file. -/
def registryKey : List Char := "registry".toList

/-! ### The settings file -/

/-- Whether a line of the settings file is a comment. -/
def isComment (line : List Char) : Bool :=
  line.head? == some '#' || line.head? == some ';'

/-- The key and the value of a line, which the first equals sign separates. -/
def assignment? (line : List Char) : Option (List Char × List Char) :=
  Text.cut? ['='] line

/-- A text without the quotes at its two ends. -/
def unquoted (cs : List Char) : List Char :=
  Text.dropEndWhile (· == '"') (cs.dropWhile (· == '"'))

/-- The registry that a settings file names in the first line that sets it. -/
def registryIn? (content : String) : Option String := do
  let written := (Text.lines content.toList).map Text.trim
  let settings := (written.filter (! isComment ·)).filterMap assignment?
  let (_, value) ← settings.find? fun (key, _) => Text.trim key == registryKey
  let url := unquoted (Text.trim value)
  if url.isEmpty then none else some (String.ofList url)

/-- The registry that the settings file of a project names. -/
def ofFile (project : String) : Job (Option String) := do
  let path := Path.join project fileName
  if ← Job.pathExists path then
    match ← Job.readText path with
    | .ok content => return registryIn? content
    | .error fault => .fail (.os fault)
  else return none

/-! ### The registry -/

/-- A registry as it is used, if it is a URL of the web. -/
def checkRegistry (raw : String) : Except ProjectFault String :=
  match Url.read? raw with
  | none => .error (.invalidRegistry raw)
  | some u =>
    if u.isWeb then .ok (String.ofList (Text.dropEndWhile (· == '/') raw.toList))
    else .error (.unsupportedScheme (String.ofList u.scheme))

/-- The registry that is named, before it is checked. -/
def namedRegistry (e : Environment) (project : String) : Job String :=
  match e.firstOf? registryVariables with
  | some url => return url
  | none => return (← ofFile project).getD publicRegistry

/-! ### The package manager -/

/-- The manager of the first lock file that is in a project. -/
def lockedManager (project : String) : List (String × PackageManager) →
    Job (Option PackageManager)
  | [] => return none
  | (file, manager) :: files => do
    if ← Job.pathExists (Path.join project file) then return some manager
    else lockedManager project files

/-- The manager that an agent announces, else the one of a lock file, else the
first. -/
def managerFor (agent : Option String) (project : String) : Job PackageManager :=
  match agent.bind PackageManager.ofAgent? with
  | some manager => return manager
  | none => return (← lockedManager project PackageManager.lockFiles).getD .npm

/-- The settings of a project. -/
def ofProject (e : Environment) (project : String) : Job Settings := do
  let raw ← namedRegistry e project
  match checkRegistry raw with
  | .error fault => .fail (.project fault)
  | .ok registry =>
    let manager ← managerFor (e.get? agentVariable) project
    return { registry, manager }

end Settings

end FrameworkUpgrade
