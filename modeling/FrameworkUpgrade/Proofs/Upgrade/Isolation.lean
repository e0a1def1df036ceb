import FrameworkUpgrade.Proofs.Dialogue.Lockstep
import FrameworkUpgrade.Proofs.Upgrade.Selection
import FrameworkUpgrade.Upgrade.Rehearsal

/-!
# `FrameworkUpgrade.Proofs.Upgrade.Isolation`: a step that fails fails alone

After the manifest is written an upgrade takes steps: it installs packages and applies
codemods and recipes. Two upgrades with the same answers to everything else may have any
steps fail, each its own and with any message. `Isolated` says what the two still have in
common, and `isolated_runs` that they always have it: they end alike, make the same calls in
the same order and write the same manifest. Their reports differ only in how steps went, and
a codemod or a recipe with the same reply is recorded alike in both, whatever happened to the
steps before it.

The replies to steps are the free replies of a lockstep of the upgrade with itself.
-/

set_option autoImplicit false

namespace FrameworkUpgrade

open Dialogue

/-- A call whose failure is recorded and does not end the upgrade. -/
def Call.IsStep (c : Call) : Prop :=
  c.stage ≠ .enquiry ∧ c.stage ≠ .writing

/-- The codemod that an exchange applies, and the reply to it. -/
def Exchange.codemodReply? : Exchange Call.Reply → Option (String × Except Fault Unit)
  | ⟨.transform id _ _ _, reply⟩ => some (id, reply)
  | _ => none

/-- The recipe that an exchange applies, and the reply to it. -/
def Exchange.recipeReply? : Exchange Call.Reply → Option (Recipe × Except Fault Unit)
  | ⟨.recipe r _, reply⟩ => some (r, reply)
  | _ => none

/-- Only an exchange of the codemods has the reply of one. -/
theorem Exchange.codemodReply?_eq_none {e : Exchange Call.Reply}
    (h : e.call.stage ≠ .codemods) : e.codemodReply? = none := by
  obtain ⟨c, reply⟩ := e
  cases c with
  | transform => exact absurd rfl h
  | _ => rfl

/-- Only an exchange of the recipes has the reply of one. -/
theorem Exchange.recipeReply?_eq_none {e : Exchange Call.Reply}
    (h : e.call.stage ≠ .recipes) : e.recipeReply? = none := by
  obtain ⟨c, reply⟩ := e
  cases c with
  | recipe => exact absurd rfl h
  | _ => rfl

namespace Upgrade

/-! ### Reports up to their steps -/

/-- Two reports that differ at most in how steps went. -/
structure SameButSteps (r r' : Report) : Prop where
  installed : r.installed = r'.installed
  target : r.target = r'.target
  pinned : r.pinned = r'.pinned
  turbopack : r.turbopack = r'.turbopack
  codemods : r.codemods.map Applied.id = r'.codemods.map Applied.id
  recipes : r.recipes.map Applied.id = r'.recipes.map Applied.id

/-- Two outcomes of one kind that differ at most in how steps went. -/
inductive SameOutcome : Outcome → Outcome → Prop where
  | alreadyCurrent (installed target : Version) :
      SameOutcome (.alreadyCurrent installed target) (.alreadyCurrent installed target)
  | completed {r r' : Report} (h : SameButSteps r r') : SameOutcome (.completed r) (.completed r')

/-! ### The upgrade in lockstep with itself -/

/-- An enquiry is no step. -/
theorem not_isStep_of_enquiry {c : Call} (h : c.stage = .enquiry) : ¬ c.IsStep :=
  fun hstep => hstep.1 h

/-- Whatever is replied to an installation, the next one follows. -/
theorem lockstep_installGroups (silent : Bool) (groups : List (List String × Bool)) :
    Lockstep Call.IsStep (fun _ _ => True) (installGroups silent groups)
      (installGroups silent groups) := by
  induction groups with
  | nil => exact .done trivial
  | cons group groups ih =>
    unfold installGroups
    split
    · exact ih
    · refine (lockstep_call _).bind fun reply reply' _ => ih.bind fun others others' _ => ?_
      -- The faults differ, but none of them ends anything.
      cases reply <;> cases reply' <;> exact .done trivial

/-- An installation goes on in the same way, whatever its steps are answered. -/
theorem lockstep_install (x : Context) (m : Manifest) (pins : List Pin) :
    Lockstep Call.IsStep (fun _ _ => True) (install x m pins) (install x m pins) :=
  (lockstep_installGroups _ _).bind fun _ _ _ => .done trivial

/-- The lines about two installations differ, and nothing else does. -/
theorem lockstep_showInstall (result result' : StepResult) :
    Lockstep Call.IsStep (fun _ _ => True) (showInstall result) (showInstall result') := by
  cases result with
  | succeeded =>
    cases result' with
    | succeeded => exact .sayLeft _ (.sayRight _ (.done trivial))
    | failed _ => exact .sayLeft _ (.sayRight _ (.sayRight _ (.done trivial)))
  | failed _ =>
    cases result' with
    | succeeded => exact .sayLeft _ (.sayLeft _ (.sayRight _ (.done trivial)))
    | failed _ => exact .sayLeft _ (.sayLeft _ (.sayRight _ (.sayRight _ (.done trivial))))

/-- A step is recorded under its name, whatever is replied to it. -/
theorem lockstep_apply (id : String) {call : Script (Except Fault Unit)}
    (hcall : Lockstep Call.IsStep (fun _ _ => True) call call) :
    Lockstep Call.IsStep (fun a a' => a.id = a'.id) (apply id call) (apply id call) := by
  rw [apply_eq]
  refine lockstep_line_bind _ _ (hcall.bind fun reply reply' _ => ?_)
  exact lockstep_line_bind _ _ (.done rfl)

/-- Steps are taken one after another, whatever is replied to them. -/
theorem lockstep_applyEach {ι : Type} (id : ι → String)
    {call : ι → Script (Except Fault Unit)}
    (hcall : ∀ i, Lockstep Call.IsStep (fun _ _ => True) (call i) (call i)) (is : List ι) :
    Lockstep Call.IsStep (fun as as' => as.map Applied.id = as'.map Applied.id)
      (applyEach id call is) (applyEach id call is) := by
  induction is with
  | nil => exact .done rfl
  | cons i is ih =>
    unfold applyEach
    refine (lockstep_apply (id i) (hcall i)).bind fun a a' ha => ?_
    refine ih.bind fun as as' has => .done ?_
    rw [List.map_cons, List.map_cons, ha, has]

/-- What comes after the manifest is written takes the same steps, whatever is replied. -/
theorem lockstep_carryOut (x : Context) (p : Prepared) (m : Manifest)
    (pinned : List WrittenPin) (turbopack : Bool) :
    Lockstep Call.IsStep SameButSteps (carryOut x p m pinned turbopack)
      (carryOut x p m pinned turbopack) := by
  unfold carryOut
  refine lockstep_line_bind _ _ (lockstep_line_bind _ _ ?_)
  refine (lockstep_install x m p.pins).bind fun result result' _ => ?_
  refine (lockstep_showInstall result result').bind fun _ _ _ => ?_
  refine lockstep_line_bind _ _ ?_
  rw [applyCodemods_eq_applyEach, applyRecipes_eq_applyEach]
  have hcodemod (c : Codemod) :
      Lockstep Call.IsStep (fun _ _ => True) (codemodCall x c) (codemodCall x c) :=
    lockstep_call (Call.transform c.id x.directory true x.verbose)
  have hrecipe (r : Recipe) :
      Lockstep Call.IsStep (fun _ _ => True) (recipeCall x r) (recipeCall x r) :=
    lockstep_call (Call.recipe r x.directory)
  refine (lockstep_applyEach _ hcodemod _).bind fun cs cs' hcs => ?_
  refine (lockstep_applyEach _ hrecipe _).bind fun rs rs' hrs => ?_
  exact .done ⟨rfl, rfl, rfl, rfl, hcs, hrs⟩

/-- So does all that follows the preparation, and the reports differ in their steps alone. -/
theorem lockstep_commit (x : Context) (p : Prepared) :
    Lockstep Call.IsStep SameButSteps (commit x p) (commit x p) := by
  unfold commit
  refine lockstep_line_bind _ _ ?_
  -- The write is no step: both sides are given the same reply, and the same fault.
  have hwrite : ¬ (Call.writeManifest (revised p).1).IsStep := fun hstep => hstep.2 rfl
  refine Lockstep.bind_refl (asks_call hwrite) fun reply => ?_
  refine Lockstep.bind_refl (asks_demand _ reply) fun _ => ?_
  exact lockstep_carryOut x p _ _ _

/-- An upgrade goes in lockstep with itself, with the replies to steps free. -/
theorem lockstep_run (x : Context) (token : String) :
    Lockstep Call.IsStep SameOutcome (run x token) (run x token) := by
  unfold run
  refine lockstep_line_bind _ _ (Lockstep.bind_refl ?_ fun target => ?_)
  · refine (Resolve.asks_target _ _).mono ?_
    rintro _ (rfl | ⟨_, rfl⟩)
    · exact not_isStep_of_enquiry rfl
    · exact not_isStep_of_enquiry rfl
  refine lockstep_line_bind _ _ (lockstep_line_bind _ _ ?_)
  refine Lockstep.bind_refl (asks_call (not_isStep_of_enquiry rfl)) fun reply => ?_
  refine Lockstep.bind_refl (asks_demand _ reply) fun installed => ?_
  cases Plan.decide x.catalog installed target.version with
  | alreadyCurrent => exact lockstep_line_bind _ _ (.done (.alreadyCurrent _ _))
  | applicable codemods =>
    refine Lockstep.bind_refl ?_ fun p => ?_
    · exact (asks_prepareNewer _ _ _ _).mono fun _ => not_isStep_of_enquiry
    · exact (lockstep_commit x p).bind fun _ _ h => .done (.completed h)

/-! ### What is recorded of a step -/

namespace Completion

variable {x : Context} {token : String} {es : List (Exchange Call.Reply)} {r : Report}

/-- The report records of every codemod the reply to it. -/
theorem codemods_recorded (c : Completion x token es r) :
    r.codemods = (es.filterMap Exchange.codemodReply?).map fun s => ⟨s.1, .ofReply s.2⟩ := by
  obtain ⟨steps, _, htransforming, hrecorded⟩ := course_applyCodemods c.transformed
  have hreplies : steps.filterMap (Exchange.codemodReply? ∘ fun s => codemodExchange x s.1 s.2) =
      steps.map fun s => (s.1.id, s.2) :=
    congrFun List.filterMap_eq_map steps
  rw [c.filterMap_codemods fun _ => Exchange.codemodReply?_eq_none, htransforming,
    List.filterMap_map, hreplies, List.map_map]
  exact Except.ok.inj hrecorded

/-- The report records of every recipe the reply to it. -/
theorem recipes_recorded (c : Completion x token es r) :
    r.recipes = (es.filterMap Exchange.recipeReply?).map fun s => ⟨s.1.name, .ofReply s.2⟩ := by
  obtain ⟨steps, _, hmigrating, hrecorded⟩ := course_applyRecipes c.migrated
  have hreplies : steps.filterMap (Exchange.recipeReply? ∘ fun s => recipeExchange x s.1 s.2) =
      steps.map fun s => (s.1, s.2) :=
    congrFun List.filterMap_eq_map steps
  rw [c.filterMap_recipes fun _ => Exchange.recipeReply?_eq_none, hmigrating,
    List.filterMap_map, hreplies, List.map_map]
  exact Except.ok.inj hrecorded

end Completion

/-! ### Two upgrades -/

/-- What two upgrades have in common that differ in the replies to their steps. -/
structure Isolated (es es' : List (Exchange Call.Reply)) (r r' : Except Fault Outcome) :
    Prop where
  calls : es.map Exchange.call = es'.map Exchange.call
  written : es.filterMap Exchange.written? = es'.filterMap Exchange.written?
  ends : SameEnd SameOutcome r r'
  codemods : ∀ report report' : Report, r = .ok (.completed report) →
    r' = .ok (.completed report') → ∀ i : Nat,
      (es.filterMap Exchange.codemodReply?)[i]? = (es'.filterMap Exchange.codemodReply?)[i]? →
      report.codemods[i]? = report'.codemods[i]?
  recipes : ∀ report report' : Report, r = .ok (.completed report) →
    r' = .ok (.completed report') → ∀ i : Nat,
      (es.filterMap Exchange.recipeReply?)[i]? = (es'.filterMap Exchange.recipeReply?)[i]? →
      report.recipes[i]? = report'.recipes[i]?

/-- Whoever the collaborators of two upgrades are, and whatever they answer to steps: when
they answer alike to everything else, the upgrades have in common what `Isolated` says. -/
theorem isolated_runs {σ σ' : Type} (h : Handler Call.Reply σ) (h' : Handler Call.Reply σ')
    (x : Context) (token : String) (s : σ) (s' : σ')
    (hsame : SameReplies Call.IsStep ((run x token).exchanges h s)
      ((run x token).exchanges h' s')) :
    Isolated ((run x token).exchanges h s) ((run x token).exchanges h' s')
      ((run x token).run h s).1 ((run x token).run h' s').1 := by
  obtain ⟨hcalls, hends⟩ :=
    (lockstep_run x token).course (course_run h _ s) (course_run h' _ s') hsame
  refine ⟨hcalls, ?_, hends, ?_, ?_⟩
  · -- The write is no step, so both sides show the same of it.
    exact hsame.filterMap_eq (fun e he => Exchange.written?_eq_none he.2) hcalls
  · intro report report' hrun hrun' i hreply
    obtain ⟨c⟩ := completion_of_run hrun
    obtain ⟨c'⟩ := completion_of_run hrun'
    rw [c.codemods_recorded, c'.codemods_recorded, List.getElem?_map, List.getElem?_map, hreply]
  · intro report report' hrun hrun' i hreply
    obtain ⟨c⟩ := completion_of_run hrun
    obtain ⟨c'⟩ := completion_of_run hrun'
    rw [c.recipes_recorded, c'.recipes_recorded, List.getElem?_map, List.getElem?_map, hreply]

/-! ### Rehearsals with other failures -/

end Upgrade

namespace Rehearsal

/-- A rehearsal in which no step fails, and without the record of what was shown. -/
def sparing (r : Rehearsal) : Rehearsal :=
  { r with failures := { read := r.failures.read, write := r.failures.write }, output := "" }

/-- Failures of steps have no bearing on the answers to other calls. -/
theorem answer_sparing (r : Rehearsal) {c : Call} (hc : ¬ c.IsStep) :
    (handler.answer c r.sparing).1 = (handler.answer c r).1 := by
  obtain ⟨_, _, _, _, ⟨_, write, _, _, _, _⟩, _, _, _⟩ := r
  cases c with
  | writeManifest => cases write <;> rfl
  | install | transform | recipe => exact absurd ⟨nofun, nofun⟩ hc
  | _ => rfl

/-- Nor have they on what a rehearsal is after any call, but for themselves. -/
theorem after_sparing (r : Rehearsal) (c : Call) :
    (handler.answer c r.sparing).2.sparing = (handler.answer c r).2.sparing := by
  obtain ⟨_, _, _, _, ⟨_, write, _, _, _, _⟩, _, _, _⟩ := r
  cases c with
  | writeManifest => cases write <;> rfl
  | _ => rfl

/-- Rehearsals that differ in the failures of steps answer alike to everything else. -/
theorem answerAlike :
    AnswerAlike Call.IsStep handler handler fun r r' : Rehearsal => r.sparing = r'.sparing where
  answer h c hc := by rw [← answer_sparing _ hc, h, answer_sparing _ hc]
  after h c := by rw [← after_sparing, h, after_sparing]
  displayLeft h _ := h
  displayRight h _ := h

end Rehearsal

namespace Upgrade

/-- An upgrade with two codemods and a user who can be asked. -/
def isolatedContext : Context :=
  { catalog := ⟨[⟨"b", "B", { major := 15, minor := 0, patch := 0 }⟩,
      ⟨"d", "D", { major := 15, minor := 1, patch := 0 }⟩]⟩
    directory := "/app", verbose := false, prompts := true }

/-- A project that goes from React 18 to React 19 and declares the types of React. Its user
agrees to everything. -/
def isolatedProject (failures : Failures) : Rehearsal :=
  { registry := {
      releases := [(("next", "15.1.0"),
        { version := some "15.1.0", peers := some [("react", "^19.0.0")],
          dev := [("@types/react", "19.0.1")] })]
      packages := [("react", { versions := ["19.0.0"] }),
        ("@types/react", { versions := ["19.0.1"] })] }
    installed := [("next", .ok { major := 14, minor := 0, patch := 0 }),
      ("react", .ok { major := 18, minor := 2, patch := 0 })]
    manifest := ⟨[("dependencies", .object [("react", .text "^18.2.0")]),
      ("devDependencies", .object [("@types/react", .text "^18.2.0")])]⟩
    failures }

/-- The report of the upgrade, by how its steps go. -/
def isolatedReport (install b d migration types : StepResult) : Report :=
  { installed := { major := 14, minor := 0, patch := 0 }
    target := { major := 15, minor := 1, patch := 0 }
    pinned := [⟨⟨"next", { major := 15, minor := 1, patch := 0 }⟩, none⟩,
               ⟨⟨"react", { major := 19, minor := 0, patch := 0 }⟩, some "^18.2.0"⟩,
               ⟨⟨"react-dom", { major := 19, minor := 0, patch := 0 }⟩, none⟩,
               ⟨⟨"@types/react", { major := 19, minor := 0, patch := 1 }⟩, some "^18.2.0"⟩]
    turbopack := false
    install
    codemods := [⟨"b", b⟩, ⟨"d", d⟩]
    recipes := [⟨"react-19-migration-recipe", migration⟩, ⟨"react-19-types-preset", types⟩] }

/-- The second codemod fails. -/
def oneFailure : Failures :=
  { transforms := [("d", .reported "exit 1")] }

/-- Both codemods fail, and so do both installations and a recipe. -/
def manyFailures : Failures :=
  { runtimeInstall := some (.reported "no network")
    devInstall := some (.reported "no space")
    transforms := [("b", .reported "exit 2"), ("d", .reported "exit 1")]
    recipes := [(.migration, .reported "exit 3")] }

/-- What is recorded of a codemod or a recipe that fails. -/
def recordedFailure (id reason : String) : StepResult :=
  .failed (Fault.codemod id (.reported reason)).message

/-- The rehearsal with one failing codemod comes to this report. -/
theorem isolatedReport_one :
    ((run isolatedContext "15.1.0").run Rehearsal.handler (isolatedProject oneFailure)).1 =
      .ok (.completed (isolatedReport .succeeded .succeeded (recordedFailure "d" "exit 1")
        .succeeded .succeeded)) := by
  simp only [run, prepareNewer, Plan.chosen, Plan.atPositions_eq_keep]
  with_unfolding_all rfl

/-- The rehearsal with failing installations, codemods and a recipe comes to this report. -/
theorem isolatedReport_many :
    ((run isolatedContext "15.1.0").run Rehearsal.handler (isolatedProject manyFailures)).1 =
      .ok (.completed (isolatedReport
        (.failed ("; ".intercalate [(Fault.install (.reported "no network")).message,
          (Fault.install (.reported "no space")).message]))
        (recordedFailure "b" "exit 2") (recordedFailure "d" "exit 1")
        (recordedFailure "react-19-migration-recipe" "exit 3") .succeeded)) := by
  simp only [run, prepareNewer, Plan.chosen, Plan.atPositions_eq_keep]
  with_unfolding_all rfl

/-- Two upgrades of the project, one of which fails in five steps and the other in one. Both
are completed, and the failure they share is recorded alike. -/
theorem isolated_rehearsals :
    Isolated
      ((run isolatedContext "15.1.0").exchanges Rehearsal.handler (isolatedProject oneFailure))
      ((run isolatedContext "15.1.0").exchanges Rehearsal.handler (isolatedProject manyFailures))
      ((run isolatedContext "15.1.0").run Rehearsal.handler (isolatedProject oneFailure)).1
      ((run isolatedContext "15.1.0").run Rehearsal.handler (isolatedProject manyFailures)).1 ∧
    ∃ report report' : Report,
      ((run isolatedContext "15.1.0").run Rehearsal.handler (isolatedProject oneFailure)).1 =
        .ok (.completed report) ∧
      ((run isolatedContext "15.1.0").run Rehearsal.handler (isolatedProject manyFailures)).1 =
        .ok (.completed report') ∧
      report.failed = [⟨"d", recordedFailure "d" "exit 1"⟩] ∧
      report'.failed.map Applied.id = ["b", "d", "react-19-migration-recipe"] ∧
      report.codemods[1]? = report'.codemods[1]? := by
  have hsame := (lockstep_run isolatedContext "15.1.0").sameReplies Rehearsal.answerAlike
    (show (isolatedProject oneFailure).sparing = (isolatedProject manyFailures).sparing from rfl)
  exact ⟨isolated_runs Rehearsal.handler Rehearsal.handler isolatedContext "15.1.0" _ _ hsame,
    _, _, isolatedReport_one, isolatedReport_many, rfl, rfl, rfl⟩

end Upgrade

end FrameworkUpgrade
