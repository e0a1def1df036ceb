import FrameworkUpgrade.Machine.Request
import FrameworkUpgrade.Text.Utf8

/-!
# `FrameworkUpgrade.Project.WorkTree`: changes that are not committed

Two questions to Git, neither of which changes anything: whether a directory lies
in a work tree, and whether the work tree is as it was committed. Git that cannot
be asked knows of no work tree.
-/

set_option autoImplicit false

namespace FrameworkUpgrade

/-- A directory in which Git is asked. -/
structure WorkTree where
  directory : String
deriving DecidableEq, Repr

namespace WorkTree

/-- The program that is asked. -/
def program : String := "git"

/-- The question whether a directory lies in a work tree. -/
def insideQuestion : List String := ["rev-parse", "--is-inside-work-tree"]

/-- The question what is not committed. -/
def statusQuestion : List String := ["status", "--porcelain"]

/-- The directory of a path, in which Git can be asked. -/
def ofPath (path : String) : Job WorkTree := do
  if !Path.isAbsolute path then .fail (.project .relativeRepository)
  else if ← Job.isDirectory path then return ⟨path⟩
  else .fail (.project (.repositoryNotADirectory path))

/-- What Git answers. -/
def ask (t : WorkTree) (question : List String) : Job (Except OsFault Finished) := do
  let command : Command := { program, arguments := question, directory := t.directory }
  let reply : Except OsFault Finished ← Job.request (.command command .kept)
  return reply

/-- Whether the directory lies in a work tree. -/
def isInside (t : WorkTree) : Job Bool := do
  match ← t.ask insideQuestion with
  | .ok finished => return finished.ending.isSuccess
  | .error _ => return false

/-- Whether an answer says that everything is committed. -/
def cleanIn (reply : Except OsFault Finished) : Except ProjectFault Bool :=
  match reply with
  | .error cause => .error (.gitNotRun (" ".intercalate statusQuestion) cause)
  | .ok finished =>
    if finished.ending.isSuccess then .ok finished.output.isEmpty
    else .error (.gitFailed "git status" (String.ofList (Text.Utf8.shown finished.errors)))

/-- Whether everything is committed, or why this is not known. -/
def isClean (t : WorkTree) : Job (Except ProjectFault Bool) := do
  return cleanIn (← t.ask statusQuestion)

end WorkTree

end FrameworkUpgrade
