import FrameworkUpgrade.Proofs.Machine.Output

/-!
# `FrameworkUpgrade.Proofs.Machine.Twins`: machines that differ in one program

Two machines have the same files, the same network and the same keys at the terminal, and all
programs but one do the same on both (`Machine.SameBut`). Then every request that does not run this
program is answered alike, and the machines stay twins. A request that does run it, made on one side
alone, makes no further difference, for a program that is run leaves the files alone.
`differOnly_handler` puts this together.

What the machines have shown may differ: nothing that is asked depends on it.
-/

set_option autoImplicit false

namespace FrameworkUpgrade

open Dialogue

/-- A request that runs a program, with whatever arguments. -/
def Request.Runs (name : String) : Request → Prop
  | .command c _ => c.program = name
  | _ => False

instance (name : String) : DecidablePred (Request.Runs name)
  | .command c _ => inferInstanceAs (Decidable (c.program = name))
  | .canonical _ | .kind _ | .read _ | .write _ _ | .fetch _ | .hasTerminal | .confirm _ _
  | .menu _ _ _ => .isFalse id

/-- Programs of which all but one do the same. -/
structure Programs.SameBut (name : String) (p p' : Programs) : Prop where
  installed : ∀ other, other ≠ name → (other ∈ p.installed ↔ other ∈ p'.installed)
  finish : ∀ c : Command, c.program ≠ name → p.finish c = p'.finish c

/-- Programs that differ in one name only do so in both directions. -/
theorem Programs.SameBut.symm {name : String} {p p' : Programs} (h : p.SameBut name p') :
    p'.SameBut name p where
  installed other hother := (h.installed other hother).symm
  finish c hc := (h.finish c hc).symm

namespace Machine

/-- The commands that were run, without those of one program. -/
def otherCommands (name : String) (m : Machine) : List Command :=
  m.commands.filter (·.program ≠ name)

/-- Two machines that differ at most in how one program behaves, in how often it was run, and in
what was shown. -/
structure SameBut (name : String) (m m' : Machine) : Prop where
  files : m.files = m'.files
  cwd : m.cwd = m'.cwd
  programs : m.programs.SameBut name m'.programs
  network : m.network = m'.network
  typed : m.typed = m'.typed
  commands : m.otherCommands name = m'.otherCommands name
  requests : m.requests = m'.requests

variable {name : String} {m m' : Machine}

/-- Machines that differ in one program only do so in both directions. -/
theorem SameBut.symm (h : m.SameBut name m') : m'.SameBut name m where
  files := h.files.symm
  cwd := h.cwd.symm
  programs := h.programs.symm
  network := h.network.symm
  typed := h.typed.symm
  commands := h.commands.symm
  requests := h.requests.symm

/-- A machine with other programs differs in these alone. -/
theorem sameBut_of_programs {p : Programs} (h : m.programs.SameBut name p) :
    m.SameBut name { m with programs := p } :=
  ⟨rfl, rfl, h, rfl, rfl, rfl, rfl⟩

section Requests

variable (h : m.SameBut name m')
include h

/-- Another program begins on both machines or on neither, in the same directory. -/
theorem SameBut.begins_eq {c : Command} (hc : c.program ≠ name) : m.begins c = m'.begins c := by
  -- Of all that is installed, only the program of this command counts.
  have hinstalled : m.programs.installed.contains c.program =
      m'.programs.installed.contains c.program := by
    rw [Bool.eq_iff_iff, List.contains_iff_mem, List.contains_iff_mem]
    exact h.programs.installed _ hc
  simp only [begins, Command.refusal?, h.files, h.cwd, hinstalled]

/-- A command of another program runs alike on both sides. -/
theorem SameBut.runCommand {c : Command} (hc : c.program ≠ name) (output : Output) :
    (m.runCommand c output).1 = (m'.runCommand c output).1 ∧
      (m.runCommand c output).2.SameBut name (m'.runCommand c output).2 := by
  rw [runCommand_eq, runCommand_eq, h.begins_eq hc]
  cases m'.begins c with
  | error fault => exact ⟨rfl, h⟩
  | ok directory =>
    have hcommands : (m.ran c directory output).otherCommands name =
        (m'.ran c directory output).otherCommands name := by
      show List.filter _ (_ ++ _) = List.filter _ (_ ++ _)
      rw [List.filter_append, List.filter_append]
      exact congrArg (· ++ _) h.commands
    refine ⟨congrArg Except.ok (h.programs.finish c hc), ?_⟩
    exact ⟨h.files, h.cwd, h.programs, h.network, h.typed, hcommands, h.requests⟩

/-- Every request that does not run the program is answered alike on both sides. -/
theorem SameBut.answer {r : Request} (hr : ¬ r.Runs name) :
    (Machine.answer r m).1 = (Machine.answer r m').1 ∧
      (Machine.answer r m).2.SameBut name (Machine.answer r m').2 := by
  -- What is only looked up leaves the machines as they are.
  cases r with
  | canonical path =>
    refine ⟨?_, h⟩
    show (m.files.resolve m.cwd path).map FileTree.pathOf = _
    rw [h.files, h.cwd]
    rfl
  | kind path =>
    refine ⟨?_, h⟩
    show (m.files.find? m.cwd path).map kindOf = _
    rw [h.files, h.cwd]
    rfl
  | read path =>
    refine ⟨?_, h⟩
    show m.files.read m.cwd path = _
    rw [h.files, h.cwd]
    rfl
  | hasTerminal => exact ⟨congrArg Option.isSome h.typed, h⟩
  | command c output => exact h.runCommand hr output
  -- The others change one field in the same way on both sides.
  | write path text =>
    have hwrite : m.files.write m.cwd path text.toUTF8 =
        m'.files.write m'.cwd path text.toUTF8 := by
      rw [h.files, h.cwd]
    simp only [Machine.answer, write, hwrite]
    cases m'.files.write m'.cwd path text.toUTF8 with
    | error fault => exact ⟨rfl, h⟩
    | ok files =>
      exact ⟨rfl, rfl, h.cwd, h.programs, h.network, h.typed, h.commands, h.requests⟩
  | fetch r =>
    refine ⟨congrArg (Network.fetch? · r) h.network, ?_⟩
    have hreachable : m.network.reachable = m'.network.reachable := congrArg _ h.network
    have hrequests : m.requests ++ [r] = m'.requests ++ [r] := congrArg (· ++ [r]) h.requests
    simp only [Machine.answer, fetch, hreachable]
    split
    · exact ⟨h.files, h.cwd, h.programs, h.network, h.typed, h.commands, hrequests⟩
    · exact h
  | confirm question byDefault =>
    simp only [Machine.answer, confirm, h.typed]
    cases m'.typed with
    | none => exact ⟨rfl, h⟩
    | some typed =>
      exact ⟨rfl, h.files, h.cwd, h.programs, h.network, rfl, h.commands, h.requests⟩
  | menu question labels checked =>
    simp only [Machine.answer, menu, h.typed]
    cases m'.typed with
    | none => exact ⟨rfl, h⟩
    | some typed =>
      cases checked with
      | nil => exact ⟨rfl, h⟩
      | cons _ _ =>
        exact ⟨rfl, h.files, h.cwd, h.programs, h.network, rfl, h.commands, h.requests⟩

/-- The program run on the left alone makes no further difference. -/
theorem SameBut.run_left {r : Request} (hr : r.Runs name) :
    (Machine.answer r m).2.SameBut name m' := by
  cases r with
  | command c output =>
    rw [Machine.answer, runCommand_eq]
    cases m.begins c with
    | error fault => exact h
    | ok directory =>
      -- The record on the left has one more command, which is not among the others.
      have hcommands : (m.ran c directory output).otherCommands name =
          m'.otherCommands name := by
        have hc : c.program = name := hr
        show List.filter _ (_ ++ _) = _
        rw [List.filter_append, List.filter_cons_of_neg (by simpa using hc), List.filter_nil,
          List.append_nil]
        exact h.commands
      exact ⟨h.files, h.cwd, h.programs, h.network, h.typed, hcommands, h.requests⟩
  | _ => cases hr

/-- A text that is shown on one side alone makes no difference. -/
theorem SameBut.display_left (text : String) : (handler.display text m).SameBut name m' :=
  ⟨h.files, h.cwd, h.programs, h.network, h.typed, h.commands, h.requests⟩

end Requests

/-- Twins differ only in their answers to what runs the program. -/
theorem differOnly_handler (name : String) :
    DifferOnly (Request.Runs name) handler handler (SameBut name) where
  answer h _ hr := (h.answer hr).1
  after h _ hr := (h.answer hr).2
  afterLeft h _ hr := h.run_left hr
  afterRight h _ hr := (h.symm.run_left hr).symm
  displayLeft h text := h.display_left text
  displayRight h text := (h.symm.display_left text).symm

end Machine

end FrameworkUpgrade
