import FrameworkUpgrade.Machine.Basic
import FrameworkUpgrade.Proofs.Dialogue.Transcript

/-!
# `FrameworkUpgrade.Proofs.Machine.Output`: what a machine has shown

A machine shows every text of a job, and the octets of every program that it was asked to run with
its output shown. `shownIn` says this of one event, and `output_run` of a whole play: what a machine
has shown can be read off the transcript. `runCommand_eq` says what a machine does with a command,
in one step for both kinds of output.
-/

set_option autoImplicit false

namespace FrameworkUpgrade

open Dialogue

/-- A line as it is shown. -/
def Shown.ofLine (text : String) : Shown :=
  .text (text ++ "\n")

namespace Machine

/-- The directory in which a command is run, or why it is not. -/
def begins (m : Machine) (c : Command) : Except OsFault Location :=
  match c.start m.files m.cwd with
  | .error fault => .error fault
  | .ok directory =>
    match c.refusal? m.programs m.files directory with
    | some fault => .error fault
    | none => .ok directory

/-- What a machine shows of a program that has ended. -/
def shownBy (finished : Finished) : Output → List Shown
  | .shown => [.octets finished.output]
  | .kept => []

/-- A machine on which a command was run. -/
def ran (m : Machine) (c : Command) (directory : Location) (output : Output) : Machine :=
  { m with
    commands := m.commands ++ [{ c with directory := FileTree.pathOf directory }]
    output := m.output ++ shownBy (m.programs.finish c) output }

/-- A command fails to begin and leaves the machine alone, or it ends as its program does and leaves
what it has shown. -/
theorem runCommand_eq (m : Machine) (c : Command) (output : Output) :
    m.runCommand c output =
      match m.begins c with
      | .error fault => (.error fault, m)
      | .ok directory => (.ok (m.programs.finish c), m.ran c directory output) := by
  unfold runCommand begins
  cases c.start m.files m.cwd with
  | error fault => rfl
  | ok directory =>
    dsimp only
    cases c.refusal? m.programs m.files directory with
    | some fault => rfl
    | none =>
      cases output with
      | shown => rfl
      | kept => simp only [ran, shownBy, List.append_nil]

/-- What a machine shows of an event. -/
def shownIn : Event Request.Reply → List Shown
  | .shown text => [.text text]
  | .exchanged ⟨.command _ output, .ok finished⟩ => shownBy finished output
  | .exchanged _ => []

/-- An answer shows the output of a command, and nothing else. -/
theorem output_answer (r : Request) (m : Machine) :
    (answer r m).2.output = m.output ++ shownIn (.exchanged ⟨r, (answer r m).1⟩) := by
  -- Only a command shows anything, and only if it begins.
  cases r with
  | command c output =>
    simp only [answer, runCommand_eq]
    cases m.begins c with
    | error fault => exact (List.append_nil _).symm
    | ok directory => rfl
  | write path text =>
    simp only [answer, write, shownIn, List.append_nil]
    split <;> rfl
  | fetch r =>
    simp only [answer, fetch, shownIn, List.append_nil]
    split <;> rfl
  | confirm question byDefault =>
    simp only [answer, confirm, shownIn, List.append_nil]
    split <;> rfl
  | menu question labels checked =>
    simp only [answer, menu, shownIn, List.append_nil]
    split
    · rfl
    · split <;> rfl
  | _ => exact (List.append_nil _).symm

/-- What a machine has shown after a job is what the job lets it show, event by event. -/
theorem output_run {α : Type} (job : Job α) (m : Machine) :
    (job.run handler m).2.output =
      m.output ++ (job.transcript handler m).flatMap shownIn := by
  induction job generalizing m with
  | done a => exact (List.append_nil _).symm
  | fail fault => exact (List.append_nil _).symm
  | say text next ih =>
    rw [run, ih, transcript, List.flatMap_cons, ← List.append_assoc]
    rfl
  | ask r next ih =>
    rw [run, ih, transcript, List.flatMap_cons, ← List.append_assoc]
    exact congrArg (· ++ _) (output_answer r m)

end Machine

end FrameworkUpgrade
