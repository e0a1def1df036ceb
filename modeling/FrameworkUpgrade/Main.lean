import FrameworkUpgrade.Program
import FrameworkUpgrade.Terminal.Prompt

/-!
# `FrameworkUpgrade.Main`: the program on the machine it runs on

The outer layer: every request of the program is carried out on the files and the
terminal of the machine itself. It starts no other programs and has no network:
such requests are answered as those of a machine that allows neither. A prompt is
answered with the characters of whole lines.
-/

set_option autoImplicit false

namespace FrameworkUpgrade.Main

/-- A dialogue played in a monad. -/
def play {m : Type → Type} [Monad m] {C : Type} {Reply : C → Type} {α : Type}
    (answer : (c : C) → m (Reply c)) (display : String → m Unit) :
    Dialogue Reply α → m (Except Fault α)
  | .done a => pure (.ok a)
  | .fail fault => pure (.error fault)
  | .say text next => do
    display text
    play answer display next
  | .ask c next => do
    let reply ← answer c
    play answer display (next reply)

/-- The fault behind an error of the operating system. -/
def faultOf : IO.Error → OsFault
  | .noFileOrDirectory .. => .notFound
  | .inappropriateType _ code _ => if code = 21 then .isADirectory else .notADirectory
  | .permissionDenied .. => .notPermitted
  | .invalidArgument _ code _ => if code = 36 then .nameTooLong else .tooManyLinks
  | _ => .notFound

/-- What an action gives, or the fault that it ends with. -/
def tryTo {α : Type} (action : IO α) : IO (Except OsFault α) := do
  match ← action.toBaseIO with
  | .ok a => return .ok a
  | .error e => return .error (faultOf e)

/-- What a path leads to. -/
def kindOf (path : String) : IO (Option Kind) := do
  let found ← tryTo do (← IO.FS.realPath path).metadata
  match found with
  | .error _ => return none
  | .ok info =>
    return some (match info.type with
      | .file => .file
      | .dir => .directory
      | _ => .other)

/-- The answer of a user who types lines until a prompt is answered. -/
partial def ask {σ α : Type} (press : σ → Key → Press σ α) (start : σ) (typed : List Char) :
    IO (Except OsFault (Option α)) := do
  match (Prompt.play press start typed).1 with
  | .error .noMoreKeys =>
    let line ← (← IO.getStdin).getLine
    if line.isEmpty then return .error .noMoreKeys
    else ask press start (typed ++ line.toList)
  | answer => return answer

/-- Shows a text where a prompt is shown. -/
def showPrompt (text : String) : IO Unit := do
  let stderr ← IO.getStderr
  stderr.putStr text
  stderr.flush

/-- Asks the user, if there is one. -/
def prompt {σ α : Type} (question : String) (press : σ → Key → Press σ α) (start : σ) :
    IO (Except OsFault (Option α)) := do
  if ← (← IO.getStdin).isTty then
    showPrompt s!"{question} "
    ask press start []
  else return .error .noTerminal

/-- The answer of the machine to a request. -/
def answer : (r : Request) → IO r.Reply
  | .canonical path => do
    let found ← tryTo (IO.FS.realPath path)
    return found.map (·.toString)
  | .kind path => kindOf path
  | .read path => tryTo (IO.FS.readBinFile path)
  | .write path text => tryTo (IO.FS.writeFile path text)
  | .command _ _ => pure (.error .notPermitted)
  | .fetch _ => pure none
  | .hasTerminal => do (← IO.getStdin).isTty
  | .confirm question byDefault => prompt question (Prompt.pressConfirm byDefault) ()
  | .menu question _ checked =>
    if checked.isEmpty then pure (.error .nothingToSelect)
    else prompt question Menu.press ⟨0, checked⟩

/-- The variables that the program reads. -/
def knownVariables : List String :=
  Unattended.forbiddingVariable :: Unattended.forcingVariable :: Settings.agentVariable
    :: Unattended.serviceVariables ++ Settings.registryVariables

/-- The environment of the program. -/
def environment : IO Environment := do
  let values ← knownVariables.mapM fun name => do
    return (← IO.getEnv name).map fun value => (name, value)
  return ⟨values.filterMap id⟩

/-- Shows a text. -/
def display (text : String) : IO Unit := do
  let stdout ← IO.getStdout
  stdout.putStr text
  stdout.flush

end FrameworkUpgrade.Main

/-- The program. -/
def main (arguments : List String) : IO UInt32 := do
  let environment ← FrameworkUpgrade.Main.environment
  let job := FrameworkUpgrade.Program.run arguments environment
  match ← FrameworkUpgrade.Main.play FrameworkUpgrade.Main.answer FrameworkUpgrade.Main.display
      job with
  | .ok ending =>
    (← IO.getStderr).putStr ending.errorText
    return ending.code.toUInt32
  | .error fault =>
    (← IO.getStderr).putStr s!"Error: {fault.message}\n"
    return 1
