import FrameworkUpgrade.Fault
import FrameworkUpgrade.Machine.FileTree

/-!
# `FrameworkUpgrade.Machine.Command`: programs that are run

A command is a program with arguments, run in a directory. Before the program is
looked for, the directory has to be there. A program without a slash in its name
is one of those that are installed, where the name is no longer than one of a file
and the two step names stand for directories, which nobody may run; one with a slash
is a path, and no file of the tree may be run either. What an installed program does
follows from rules, of which the first that fits counts; where none fits the program
ends well and says nothing.
-/

set_option autoImplicit false

namespace FrameworkUpgrade

/-- A program with arguments, to be run in a directory. -/
structure Command where
  program : String
  arguments : List String
  directory : String
deriving DecidableEq, Repr

/-- What a program has left when it ended. -/
structure Finished where
  ending : Ending := .exitCode 0
  output : ByteArray := .empty
  errors : ByteArray := .empty

/-- A rule on what a program does, whatever its arguments or if one of them is
given. -/
structure Rule where
  program : String
  argument : Option String := none
  finished : Finished

/-- The programs that are installed. -/
structure Programs where
  installed : List String := []
  rules : List Rule := []

namespace Rule

/-- Whether a rule is about a command. -/
def fits (r : Rule) (c : Command) : Bool :=
  r.program == c.program && r.argument.all c.arguments.contains

end Rule

namespace Programs

/-- What the program of a command does. -/
def finish (p : Programs) (c : Command) : Finished :=
  match p.rules.find? (·.fits c) with
  | some rule => rule.finished
  | none => {}

end Programs

namespace Command

/-- Whether a text of a command holds the character that no argument may hold. -/
def hasNul (c : Command) : Bool :=
  (c.program :: c.directory :: c.arguments).any (·.toList.contains '\x00')

/-- The directory in which a command starts. -/
def start (c : Command) (files : FileTree) (cwd : Location) : Except OsFault Location :=
  if c.hasNul then .error .nulInArgument
  else match files.locate cwd c.directory with
    | .error fault => .error fault
    | .ok directory =>
      if files.isDirectoryAt directory then .ok directory else .error .notADirectory

/-- Why the program of a command is not run in a directory, if there is a reason. -/
def refusal? (c : Command) (p : Programs) (files : FileTree) (directory : Location) :
    Option OsFault :=
  if c.program.toList.contains '/' then
    match files.locate directory c.program with
    | .error fault => some fault
    | .ok _ => some .notPermitted
  else if c.program.utf8ByteSize > FileTree.maxNameSize then some .nameTooLong
  else if [Path.here, Path.above].contains c.program.toList then some .notPermitted
  else if p.installed.contains c.program then none
  else some .notFound

end Command

end FrameworkUpgrade
