import FrameworkUpgrade.Proofs.Manifest.Pin
import FrameworkUpgrade.Proofs.Upgrade.Isolation
import FrameworkUpgrade.Proofs.Upgrade.Peers

/-!
# `FrameworkUpgrade.Proofs.Upgrade.Record`: a report says what happened

A completed upgrade leaves a report behind. `Truthful` compares it with the exchanges of the
upgrade:

* beside every pin stands what the manifest that was read declared of the package;
* the codemods and the recipes of the report are those that were applied, one entry for each
  call and in the same order, and each entry tells the reply to its call;
* the installation succeeded when every call for it did. Otherwise it failed for all the
  reasons that were given, in order;
* the report is clean when no step failed, and not otherwise.

`truthful_of_completed` states it for every handler. The version before a pin is looked up in a
manifest that has the earlier pins already, so it is the one that was read only because pins
are for different packages.
-/

set_option autoImplicit false

namespace FrameworkUpgrade

open Dialogue

/-- The reply to an exchange that installs packages. -/
def Exchange.installReply? : Exchange Call.Reply → Option (Except Fault Unit)
  | ⟨.install _ _ _, reply⟩ => some reply
  | _ => none

/-- The reply to an exchange that takes a step: it installs packages, or applies a codemod or a
recipe. -/
def Exchange.stepReply? : Exchange Call.Reply → Option (Except Fault Unit)
  | ⟨.install _ _ _, reply⟩ => some reply
  | ⟨.transform _ _ _ _, reply⟩ => some reply
  | ⟨.recipe _ _, reply⟩ => some reply
  | _ => none

/-- Only an exchange of the installation has the reply of one. -/
theorem Exchange.installReply?_eq_none {e : Exchange Call.Reply}
    (h : e.call.stage ≠ .installation) : e.installReply? = none := by
  obtain ⟨c, reply⟩ := e
  cases c with
  | install => exact absurd rfl h
  | _ => rfl

/-- A step is an installation, a codemod or a recipe. -/
theorem Exchange.stepReply?_eq_some_iff {e : Exchange Call.Reply} {reply : Except Fault Unit} :
    e.stepReply? = some reply ↔ e.installReply? = some reply ∨
      (∃ id, e.codemodReply? = some (id, reply)) ∨ ∃ r, e.recipeReply? = some (r, reply) := by
  obtain ⟨c, given⟩ := e
  cases c with
  | install specifiers dev silent =>
    constructor
    · exact .inl
    · rintro (h | ⟨_, ⟨⟩⟩ | ⟨_, ⟨⟩⟩)
      exact h
  | transform id directory force verbose =>
    constructor
    · rintro ⟨⟩
      exact .inr (.inl ⟨id, rfl⟩)
    · rintro (⟨⟨⟩⟩ | ⟨_, ⟨⟩⟩ | ⟨_, ⟨⟩⟩)
      rfl
  | recipe recipe directory =>
    constructor
    · rintro ⟨⟩
      exact .inr (.inr ⟨recipe, rfl⟩)
    · rintro (⟨⟨⟩⟩ | ⟨_, ⟨⟩⟩ | ⟨_, ⟨⟩⟩)
      rfl
  | _ => simp [stepReply?, installReply?, codemodReply?, recipeReply?]

/-- What holds of the replies to all steps holds of those to installations, to codemods and to
recipes. -/
theorem Exchange.forall_stepReply_iff (P : Except Fault Unit → Prop)
    (es : List (Exchange Call.Reply)) :
    (∀ reply ∈ es.filterMap Exchange.stepReply?, P reply) ↔
      (∀ reply ∈ es.filterMap Exchange.installReply?, P reply) ∧
      (∀ s ∈ es.filterMap Exchange.codemodReply?, P s.2) ∧
      ∀ s ∈ es.filterMap Exchange.recipeReply?, P s.2 := by
  -- Every step is an installation, a codemod or a recipe.
  simp only [List.mem_filterMap, stepReply?_eq_some_iff]
  constructor
  · intro hall
    refine ⟨?_, ?_, ?_⟩
    · rintro reply ⟨e, he, hinstall⟩
      exact hall reply ⟨e, he, .inl hinstall⟩
    · rintro s ⟨e, he, hcodemod⟩
      exact hall s.2 ⟨e, he, .inr (.inl ⟨s.1, hcodemod⟩)⟩
    · rintro s ⟨e, he, hrecipe⟩
      exact hall s.2 ⟨e, he, .inr (.inr ⟨s.1, hrecipe⟩)⟩
  · rintro ⟨hinstalls, hcodemods, hrecipes⟩ reply ⟨e, he, hinstall | ⟨id, hcodemod⟩ | ⟨r, hrecipe⟩⟩
    · exact hinstalls reply ⟨e, he, hinstall⟩
    · exact hcodemods (id, reply) ⟨e, he, hcodemod⟩
    · exact hrecipes (r, reply) ⟨e, he, hrecipe⟩

/-! ### Results -/

namespace StepResult

/-- A result tells how a call was replied to. -/
inductive Tells : StepResult → Except Fault Unit → Prop where
  | succeeded : Tells .succeeded (.ok ())
  | failed (fault : Fault) : Tells (.failed fault.message) (.error fault)

/-- The result that is made of a reply tells it. -/
theorem tells_ofReply (reply : Except Fault Unit) : (ofReply reply).Tells reply := by
  cases reply with
  | ok _ => exact .succeeded
  | error fault => exact .failed fault

/-- A result that tells a reply is a success exactly if the reply is. -/
theorem Tells.isSuccess_iff {result : StepResult} {reply : Except Fault Unit}
    (h : result.Tells reply) : result.isSuccess = true ↔ reply = .ok () := by
  cases h with
  | succeeded => exact ⟨fun _ => rfl, fun _ => rfl⟩
  | failed fault => exact ⟨nofun, nofun⟩

/-- The reasons that are given for failures. -/
def reasons (replies : List (Except Fault Unit)) : List String :=
  replies.filterMap fun
    | .ok () => none
    | .error fault => some fault.message

/-- A result tells how several calls were replied to. -/
inductive TellsAll (replies : List (Except Fault Unit)) : StepResult → Prop where
  | succeeded (all : ∀ reply ∈ replies, reply = .ok ()) : TellsAll replies .succeeded
  | failed (some : ∃ reply ∈ replies, reply ≠ .ok ()) :
    TellsAll replies (.failed ("; ".intercalate (reasons replies)))

/-- There is no reason for a failure exactly if every reply is a success. -/
theorem reasons_eq_nil_iff {replies : List (Except Fault Unit)} :
    reasons replies = [] ↔ ∀ reply ∈ replies, reply = .ok () := by
  rw [reasons, List.filterMap_eq_nil_iff]
  refine forall₂_congr fun reply _ => ?_
  cases reply with
  | ok _ => simp
  | error _ => simp

/-- A result that tells several replies is a success exactly if all of them are. -/
theorem TellsAll.isSuccess_iff {replies : List (Except Fault Unit)} {result : StepResult}
    (h : TellsAll replies result) :
    result.isSuccess = true ↔ ∀ reply ∈ replies, reply = .ok () := by
  cases h with
  | succeeded all => exact ⟨fun _ => all, fun _ => rfl⟩
  | failed some =>
    obtain ⟨reply, hreply, hne⟩ := some
    exact ⟨nofun, fun all => absurd (all reply hreply) hne⟩

end StepResult

/-- A report is clean when its installation succeeded and everything that was applied did. -/
theorem Report.isClean_iff (r : Report) :
    r.isClean = true ↔ r.install.isSuccess = true ∧
      (∀ a ∈ r.codemods, a.result.isSuccess = true) ∧
      ∀ a ∈ r.recipes, a.result.isSuccess = true := by
  rw [isClean, failed, applied, Bool.and_eq_true, List.isEmpty_iff, List.filter_eq_nil_iff,
    List.forall_mem_append]
  simp only [Bool.not_eq_true', Bool.not_eq_false]

namespace Upgrade

/-! ### What was declared before -/

/-- Beside each of several pins for distinct packages stands what was declared at the
beginning. -/
theorem previous_pinAll {ps : List Pin} (hnodup : (ps.map Pin.package).Nodup) (m : Manifest) :
    ∀ w ∈ (pinAll m ps).2, w.previous = m.declared? w.pin.package := by
  induction ps generalizing m with
  | nil => exact nofun
  | cons p ps ih =>
    obtain ⟨hfresh, hnodup⟩ := List.nodup_cons.mp hnodup
    intro w hw
    have hw : w ∈ (⟨p, m.declared? p.package⟩ : WrittenPin) ::
        (pinAll (m.pin p.package p.version.text) ps).2 := hw
    rcases List.mem_cons.mp hw with rfl | hw
    · rfl
    · -- The pin comes later, and is for another package.
      have hlater : w.pin ∈ ps := by
        rw [← pins_pinAll (m.pin p.package p.version.text) ps]
        exact List.mem_map_of_mem hw
      have hne : w.pin.package ≠ p.package :=
        fun heq => hfresh (heq ▸ List.mem_map_of_mem hlater)
      rw [ih hnodup _ w hw, Manifest.declared?_pin_ne hne]

/-! ### How the installation went -/

/-- Every group that is not empty is installed by one call, in order and whatever the replies
are. What comes of it are the reasons for which calls failed. -/
theorem course_installGroups {silent : Bool} {groups : List (List String × Bool)}
    {es : List (Exchange Call.Reply)} {r : Except Fault (List String)}
    (h : (installGroups silent groups).Course es r) :
    ∃ steps : List ((List String × Bool) × Except Fault Unit),
      steps.map Prod.fst = groups.filter (fun group => !group.1.isEmpty) ∧
      es = steps.map (fun s => ⟨.install s.1.1 s.1.2 silent, s.2⟩) ∧
      r = .ok (StepResult.reasons (steps.map Prod.snd)) := by
  induction groups generalizing es r with
  | nil =>
    obtain ⟨rfl, rfl⟩ := (course_done _ _ _).mp h
    exact ⟨[], rfl, rfl, rfl⟩
  | cons group groups ih =>
    unfold installGroups at h
    split at h
    · rename_i hempty
      rw [List.filter_cons_of_neg (by simp [hempty])]
      exact ih h
    · rename_i hnonempty
      rw [List.filter_cons_of_pos (by simp [hnonempty])]
      obtain ⟨reply, rest, rfl, h₁⟩ := (course_call_bind _ _ _ _).mp h
      rcases (course_bind _ _ _ _).mp h₁ with
        ⟨others, front, back, rfl, hothers, h₂⟩ | ⟨_, rfl, hothers⟩
      · obtain ⟨steps, hsteps, rfl, ⟨⟩⟩ := ih hothers
        rw [← hsteps]
        cases reply with
        | ok _ =>
          obtain ⟨rfl, rfl⟩ := (course_pure _ _ _).mp h₂
          rw [List.append_nil]
          exact ⟨(group, .ok ()) :: steps, rfl, rfl, rfl⟩
        | error fault =>
          obtain ⟨rfl, rfl⟩ := (course_pure _ _ _).mp h₂
          rw [List.append_nil]
          exact ⟨(group, .error fault) :: steps, rfl, rfl, rfl⟩
      · -- The other groups end with reasons, and not with a fault.
        obtain ⟨_, _, _, ⟨⟩⟩ := ih hothers

/-- The result of an installation tells the replies to its calls. -/
theorem course_install {x : Context} {m : Manifest} {pins : List Pin}
    {es : List (Exchange Call.Reply)} {result : StepResult}
    (h : (install x m pins).Course es (.ok result)) :
    StepResult.TellsAll (es.filterMap Exchange.installReply?) result := by
  obtain ⟨failures, front, back, rfl, hgroups, hend⟩ := (course_bind_ok _ _ _ _).mp h
  obtain ⟨rfl, ⟨⟩⟩ := (course_pure _ _ _).mp hend
  obtain ⟨steps, -, rfl, ⟨⟩⟩ := course_installGroups hgroups
  have hreplies : (steps.map fun s => (⟨.install s.1.1 s.1.2 (!x.verbose), s.2⟩ :
      Exchange Call.Reply)).filterMap Exchange.installReply? = steps.map Prod.snd := by
    rw [List.filterMap_map]
    exact congrFun List.filterMap_eq_map steps
  rw [List.append_nil, hreplies]
  split
  · rename_i hempty
    exact .succeeded (StepResult.reasons_eq_nil_iff.mp (List.isEmpty_iff.mp hempty))
  · rename_i hfailures
    rw [List.isEmpty_iff, StepResult.reasons_eq_nil_iff] at hfailures
    push Not at hfailures
    exact .failed hfailures

/-! ### The whole report -/

/-- What a report says of the exchanges of its upgrade. -/
structure Truthful (es : List (Exchange Call.Reply)) (r : Report) : Prop where
  pinned : ∃ m, es.filterMap Exchange.read? = [m] ∧
    ∀ w ∈ r.pinned, w.previous = m.declared? w.pin.package
  codemods : List.Forall₂ (fun (a : Applied) s => a.id = s.1 ∧ a.result.Tells s.2)
    r.codemods (es.filterMap Exchange.codemodReply?)
  recipes : List.Forall₂ (fun (a : Applied) s => a.id = s.1.name ∧ a.result.Tells s.2)
    r.recipes (es.filterMap Exchange.recipeReply?)
  install : StepResult.TellsAll (es.filterMap Exchange.installReply?) r.install
  clean : r.isClean = true ↔ ∀ reply ∈ es.filterMap Exchange.stepReply?, reply = .ok ()

namespace Completion

variable {x : Context} {token : String} {es : List (Exchange Call.Reply)} {r : Report}

/-- What only installations show is to be found among the installations. -/
theorem filterMap_installs (c : Completion x token es r) {β : Type}
    {f : Exchange Call.Reply → Option β} (hf : ∀ e, e.call.stage ≠ .installation → f e = none) :
    es.filterMap f = c.installing.filterMap f := by
  have hsteps := c.filterMap_steps fun e he => hf e (by rcases he with h | h <;> rw [h] <;> nofun)
  rw [hsteps, filterMap_eq_nil_of_stage hf (stage_of_applyCodemods c.transformed) nofun,
    filterMap_eq_nil_of_stage hf (stage_of_applyRecipes c.migrated) nofun, List.append_nil,
    List.append_nil]

/-- The report of a completed upgrade tells the replies to the installation. -/
theorem install_tells (c : Completion x token es r) :
    StepResult.TellsAll (es.filterMap Exchange.installReply?) r.install := by
  rw [c.filterMap_installs fun _ => Exchange.installReply?_eq_none]
  exact course_install c.installed

/-- The report has what the manifest declared before, for every package that is pinned. -/
theorem previous_eq (c : Completion x token es r) :
    ∀ w ∈ r.pinned, w.previous = c.prepared.manifest.declared? w.pin.package := by
  obtain ⟨d⟩ := preparation_of_course c.prepares
  rw [c.pinned_eq, pinned_revised]
  exact previous_pinAll d.nodup_packages c.prepared.manifest

/-- The report is clean exactly if every step was replied to with success. -/
theorem isClean_iff (c : Completion x token es r) :
    r.isClean = true ↔ ∀ reply ∈ es.filterMap Exchange.stepReply?, reply = .ok () := by
  rw [Report.isClean_iff, Exchange.forall_stepReply_iff, c.install_tells.isSuccess_iff,
    c.codemods_recorded, c.recipes_recorded, List.forall_mem_map, List.forall_mem_map]
  simp only [(StepResult.tells_ofReply _).isSuccess_iff]

/-- The report of a completed upgrade is truthful. -/
theorem truthful (c : Completion x token es r) : Truthful es r where
  pinned := ⟨_, c.read_eq, c.previous_eq⟩
  codemods := by
    rw [c.codemods_recorded, List.forall₂_map_left_iff, List.forall₂_same]
    exact fun s _ => ⟨rfl, StepResult.tells_ofReply s.2⟩
  recipes := by
    rw [c.recipes_recorded, List.forall₂_map_left_iff, List.forall₂_same]
    exact fun s _ => ⟨rfl, StepResult.tells_ofReply s.2⟩
  install := c.install_tells
  clean := c.isClean_iff

end Completion

/-- Whoever the collaborators are and whatever they answer, the report of a completed upgrade
says what happened. -/
theorem truthful_of_completed {σ : Type} (h : Handler Call.Reply σ) (x : Context)
    (token : String) (s : σ) {r : Report}
    (hrun : ((run x token).run h s).1 = .ok (.completed r)) :
    Truthful ((run x token).exchanges h s) r := by
  obtain ⟨c⟩ := completion_of_run hrun
  exact c.truthful

/-- The report of an upgrade in which five steps fail. Two of them are installations, and the
reasons for both are given. -/
theorem truthful_many :
    ∃ r : Report,
      ((run isolatedContext "15.1.0").run Rehearsal.handler (isolatedProject manyFailures)).1 =
        .ok (.completed r) ∧
      Truthful
        ((run isolatedContext "15.1.0").exchanges Rehearsal.handler (isolatedProject manyFailures))
        r ∧
      r.install = .failed ((Fault.install (.reported "no network")).message ++ "; " ++
        (Fault.install (.reported "no space")).message) ∧
      r.failed.map Applied.id = ["b", "d", "react-19-migration-recipe"] ∧ r.isClean = false :=
  ⟨_, isolatedReport_many, truthful_of_completed Rehearsal.handler isolatedContext "15.1.0"
    (isolatedProject manyFailures) isolatedReport_many, by decide, rfl, rfl⟩

end Upgrade

end FrameworkUpgrade
