import FrameworkUpgrade.CommandLine.Grammar

/-!
# `FrameworkUpgrade.CommandLine.Invocation`: what the user wants done

The program has two subcommands. One upgrades a project to a revision, the newest
release if none is given; the other lists codemods, those between two versions if
they are given. The path of the project is an option of the program itself, and
only of it; whether it talks is an option that a subcommand may have too.
-/

set_option autoImplicit false

namespace FrameworkUpgrade

/-- What the user wants done. -/
inductive Action where
  | upgrade (revision : String)
  | codemods (after upTo : Option String)
deriving DecidableEq, Repr

/-- What the user wants done, and how. -/
structure Invocation where
  path : String
  verbose : Bool
  action : Action
deriving DecidableEq, Repr

namespace CommandLine

/-- The option to talk. -/
def verboseSwitch : Switch := ⟨"verbose", some 'v', .flag⟩

/-- The option for help. -/
def helpSwitch : Switch := ⟨"help", some 'h', .help⟩

/-- The grammar of the program. -/
def programGrammar : Grammar where
  switches := [⟨"path", some 'p', .value⟩, verboseSwitch, helpSwitch,
    ⟨"version", some 'V', .version⟩]
  subcommands := ["upgrade", "codemods", "help"]

/-- The grammar of the subcommand that upgrades. -/
def upgradeGrammar : Grammar where
  switches := [verboseSwitch, helpSwitch]
  operands := 1

/-- The grammar of the subcommand that lists codemods. -/
def codemodsGrammar : Grammar where
  switches := [⟨"from", none, .value⟩, ⟨"to", none, .value⟩, verboseSwitch, helpSwitch]

/-- The directory of a project whose path is not given. -/
def defaultPath : String := "."

/-- The revision to upgrade to when none is given. -/
def defaultRevision : String := "latest"

/-- What follows a subcommand that asks for help: at most the name of another one. -/
def helpMisuse : List String → Misuse
  | [] => .helpAsked
  | [name] => if programGrammar.subcommands.contains name then .helpAsked else .unknownSubcommand
  | _ => .unknownSubcommand

/-- All arguments of a command that knows no subcommands. -/
def readAll (grammar : Grammar) (arguments : List String) : Except Misuse Given := do
  let (given, _) ← readArguments grammar {} arguments
  given.settle

/-- The action of a subcommand, and whether its arguments ask to talk. -/
def readAction (name : String) (arguments : List String) : Except Misuse (Action × Bool) :=
  if name = "upgrade" then do
    let given ← readAll upgradeGrammar arguments
    return (.upgrade (given.operands.head?.getD defaultRevision), given.has "verbose")
  else if name = "codemods" then do
    let given ← readAll codemodsGrammar arguments
    return (.codemods (given.value? "from") (given.value? "to"), given.has "verbose")
  else .error (helpMisuse arguments)

/-- What the arguments of the program ask for. -/
def read (arguments : List String) : Except Misuse Invocation := do
  let (given, ending) ← readArguments programGrammar {} arguments
  match ending with
  | .last =>
    let settled ← given.settle
    throw (if settled.isEmpty then .nothingGiven else .noSubcommand)
  | .subcommand name others =>
    let (action, verbose) ← readAction name others
    let settled ← given.settle
    return { path := (settled.value? "path").getD defaultPath
             verbose := settled.has "verbose" || verbose
             action }

end CommandLine

end FrameworkUpgrade
