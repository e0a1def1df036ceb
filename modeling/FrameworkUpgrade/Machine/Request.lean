import FrameworkUpgrade.Dialogue
import FrameworkUpgrade.Machine.Command
import FrameworkUpgrade.Machine.Network

/-!
# `FrameworkUpgrade.Machine.Request`: what the program asks of a machine

A machine has files, programs, a network and perhaps a terminal. `Request` lists
all that the program asks of it, and `Request.Reply` what may be answered. A
`Job` is a dialogue in these requests.
-/

set_option autoImplicit false

namespace FrameworkUpgrade

/-- What a path leads to. -/
inductive Kind where
  | file
  | directory
  | other
deriving DecidableEq, Repr

/-- Whether the output of a program is shown as it comes or kept for the one who
runs it. -/
inductive Output where
  | shown
  | kept
deriving DecidableEq, Repr

/-- What the program asks of a machine. -/
inductive Request where
  | canonical (path : String)
  | kind (path : String)
  | read (path : String)
  | write (path text : String)
  | command (c : Command) (output : Output)
  | fetch (r : HttpRequest)
  | hasTerminal
  | confirm (question : String) (byDefault : Bool)
  | menu (question : String) (labels : List String) (checked : List Bool)
deriving Repr

/-- What a machine may answer. A prompt that is cancelled has no answer. -/
def Request.Reply : Request → Type
  | .canonical _ => Except OsFault String
  | .kind _ => Option Kind
  | .read _ => Except OsFault ByteArray
  | .write _ _ => Except OsFault Unit
  | .command _ _ => Except OsFault Finished
  | .fetch _ => Option HttpResponse
  | .hasTerminal => Bool
  | .confirm _ _ => Except OsFault (Option Bool)
  | .menu _ _ _ => Except OsFault (Option (List Nat))

/-- A dialogue with a machine. -/
abbrev Job (α : Type) : Type :=
  Dialogue Request.Reply α

/-- The job that makes one request and ends with the reply. -/
abbrev Job.request (r : Request) : Job r.Reply :=
  Dialogue.call r

namespace Job

/-- Whether a path leads to anything. -/
def pathExists (path : String) : Job Bool := do
  let kind : Option Kind ← request (.kind path)
  return kind.isSome

/-- Whether a path leads to a file. -/
def isFile (path : String) : Job Bool := do
  let kind : Option Kind ← request (.kind path)
  return kind == some .file

/-- Whether a path leads to a directory. -/
def isDirectory (path : String) : Job Bool := do
  let kind : Option Kind ← request (.kind path)
  return kind == some .directory

/-- The text of octets, if they are text. -/
def textOf (reply : Except OsFault ByteArray) : Except OsFault String :=
  match reply with
  | .error fault => .error fault
  | .ok bytes =>
    match String.fromUTF8? bytes with
    | some text => .ok text
    | none => .error .notText

/-- The text of the file under a path. -/
def readText (path : String) : Job (Except OsFault String) := do
  let reply ← request (.read path)
  return textOf reply

end Job

end FrameworkUpgrade
