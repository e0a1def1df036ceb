import FrameworkUpgrade.Machine.Request
import FrameworkUpgrade.Terminal.Prompt

/-!
# `FrameworkUpgrade.Machine.Basic`: a machine held in memory

A machine answers every request from its files, its programs, its network and the
characters typed at its terminal, and it records the programs that were run, the
requests that reached the network, and all that was shown. A program that is run
leaves the files alone.
-/

set_option autoImplicit false

namespace FrameworkUpgrade

/-- What was shown: a text of the program itself, or octets of a program that it
ran. -/
inductive Shown where
  | text (s : String)
  | octets (bytes : ByteArray)

/-- A machine held in memory. One without typed characters has no terminal. -/
structure Machine where
  files : FileTree := {}
  cwd : Location := []
  programs : Programs := {}
  network : Network := {}
  typed : Option (List Char) := none
  commands : List Command := []
  requests : List HttpRequest := []
  output : List Shown := []

namespace Machine

/-- The kind of a node that no link leads on from. -/
def kindOf : Node → Kind
  | .file _ => .file
  | .directory => .directory
  | _ => .other

/-- A machine that has shown more. -/
def showing (m : Machine) (s : Shown) : Machine :=
  { m with output := m.output ++ [s] }

/-- The octets of what was shown. -/
def octets (m : Machine) : ByteArray :=
  m.output.foldl (fun all s => all ++ match s with
    | .text t => t.toUTF8
    | .octets bytes => bytes) .empty

/-- A command run on a machine. -/
def runCommand (m : Machine) (c : Command) (output : Output) :
    Except OsFault Finished × Machine :=
  match c.start m.files m.cwd with
  | .error fault => (.error fault, m)
  | .ok directory =>
    match c.refusal? m.programs m.files directory with
    | some fault => (.error fault, m)
    | none =>
      let finished := m.programs.finish c
      let ran := { m with
        commands := m.commands ++ [{ c with directory := FileTree.pathOf directory }] }
      (.ok finished, match output with
        | .shown => ran.showing (.octets finished.output)
        | .kept => ran)

/-- A request made on a machine. -/
def fetch (m : Machine) (r : HttpRequest) : Option HttpResponse × Machine :=
  (m.network.fetch? r,
    if m.network.reachable then { m with requests := m.requests ++ [r] } else m)

/-- A prompt for several answers at the terminal of a machine. -/
def menu (m : Machine) (checked : List Bool) : Except OsFault (Option (List Nat)) × Machine :=
  match m.typed with
  | none => (.error .noTerminal, m)
  | some typed =>
    if checked.isEmpty then (.error .nothingToSelect, m)
    else
      let (answer, rest) := Prompt.play Menu.press ⟨0, checked⟩ typed
      (answer, { m with typed := some rest })

/-- A prompt for yes or no at the terminal of a machine. -/
def confirm (m : Machine) (byDefault : Bool) : Except OsFault (Option Bool) × Machine :=
  match m.typed with
  | none => (.error .noTerminal, m)
  | some typed =>
    let (answer, rest) := Prompt.play (Prompt.pressConfirm byDefault) () typed
    (answer, { m with typed := some rest })

/-- A file written on a machine. -/
def write (m : Machine) (path text : String) : Except OsFault Unit × Machine :=
  match m.files.write m.cwd path text.toUTF8 with
  | .error fault => (.error fault, m)
  | .ok files => (.ok (), { m with files })

/-- The answer of a machine to a request. -/
def answer : (r : Request) → Machine → r.Reply × Machine
  | .canonical path, m => ((m.files.resolve m.cwd path).map FileTree.pathOf, m)
  | .kind path, m => ((m.files.find? m.cwd path).map kindOf, m)
  | .read path, m => (m.files.read m.cwd path, m)
  | .write path text, m => m.write path text
  | .command c output, m => m.runCommand c output
  | .fetch r, m => m.fetch r
  | .hasTerminal, m => (m.typed.isSome, m)
  | .confirm _ byDefault, m => m.confirm byDefault
  | .menu _ _ checked, m => m.menu checked

/-- The handler that answers from a machine in memory. -/
def handler : Handler Request.Reply Machine where
  answer := answer
  display text m := m.showing (.text text)

end Machine

end FrameworkUpgrade
