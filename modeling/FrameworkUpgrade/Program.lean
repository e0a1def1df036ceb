import FrameworkUpgrade.Codemod.Listing
import FrameworkUpgrade.CommandLine.Invocation
import FrameworkUpgrade.Session

/-!
# `FrameworkUpgrade.Program`: from arguments to an exit code

The program reads its arguments, does what they ask for, and ends with a code:
zero when all went well or only information was asked for, one when there was a
fault, two when the arguments are wrong. A fault is shown in one line.
-/

set_option autoImplicit false

namespace FrameworkUpgrade

/-- How the program ends. -/
inductive Exit where
  | done
  | misused (why : Misuse)
  | failed (fault : Fault)

namespace Program

/-- The name of the program and its version. -/
def title : String := "next-upgrade 0.1.0"

/-- The help on the program. -/
def help : List String :=
  ["Upgrade a Next.js project: pin compatible React versions, install, and apply codemods",
    "", "Usage: next-upgrade [OPTIONS] <COMMAND>", "", "Commands:",
    "  upgrade   Upgrade Next.js to a release and apply the codemods it needs",
    "  codemods  List codemods, optionally only those between two versions",
    "  help      Print this message or the help of the given subcommand(s)", "", "Options:",
    "  -p, --path <PATH>  Path to the project directory (defaults to current directory) [default: .]",
    "  -v, --verbose      Enable verbose output for debugging",
    "  -h, --help         Print help", "  -V, --version      Print version"]

/-- What is shown in the place of doing anything. -/
def information : Misuse → List String
  | .helpAsked => help
  | .versionAsked => [title]
  | _ => []

/-- Does what the arguments ask for. -/
def perform (i : Invocation) (e : Environment) : Job Unit :=
  match i.action with
  | .upgrade revision => Session.upgrade i.path revision i.verbose e
  | .codemods after upTo => do
    let listing ← Dialogue.demand (Catalog.listingText after upTo)
    Dialogue.say listing (Dialogue.done ())

/-- The program, with its arguments and its environment. -/
def run (arguments : List String) (e : Environment) : Job Exit := do
  match CommandLine.read arguments with
  | .error why =>
    (information why).forM Dialogue.line
    return .misused why
  | .ok invocation =>
    match ← (perform invocation e).attempt with
    | .ok () => return .done
    | .error fault => return .failed fault

end Program

namespace Misuse

/-- Whether no more than information was asked for. -/
def isQuestion : Misuse → Bool
  | .helpAsked => true
  | .versionAsked => true
  | _ => false

end Misuse

namespace Exit

/-- The code of an exit. -/
def code : Exit → Nat
  | .done => 0
  | .failed _ => 1
  | .misused why => if why.isQuestion then 0 else 2

/-- What is shown of a fault. -/
def errorText : Exit → String
  | .failed fault => s!"Error: {fault.message}\n"
  | _ => ""

end Exit

end FrameworkUpgrade
