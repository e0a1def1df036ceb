import FrameworkUpgrade.Proofs.Upgrade.Parts

/-!
# `FrameworkUpgrade.Proofs.Upgrade.CommitPoint`: the one write of an upgrade

An upgrade changes the project from the write of the manifest on. `CommitPoint` says what
this means for the exchanges of a whole upgrade, by the way in which it ends:

* an upgrade that fails has made enquiries only, and at most one write, which came last
  and is what failed;
* an upgrade that has nothing to do has asked for the target and for the installed
  framework, and for nothing else;
* an upgrade that is completed has read the manifest once and written it once. All
  enquiries lie before the write. After it come the installations, then the codemods,
  then the recipes.

`commitPoint_run` states it for every handler, so for collaborators that answer or fail in
any way at every call.
-/

set_option autoImplicit false

namespace FrameworkUpgrade

open Dialogue

/-- Whether a call reads the manifest. -/
def Call.isRead : Call → Bool
  | .readManifest => true
  | _ => false

namespace Upgrade

/-- The exchanges of an upgrade that fails: enquiries, and behind them at most the write
of the manifest, whose fault is that of the upgrade. -/
def Aborted (fault : Fault) (es : List (Exchange Call.Reply)) : Prop :=
  (∀ e ∈ es, e.call.stage = .enquiry) ∨
  ∃ before m, es = before ++ [⟨.writeManifest m, .error fault⟩] ∧
    ∀ e ∈ before, e.call.stage = .enquiry

/-- The exchanges of an upgrade with nothing to do: all are about the framework, and none
is about the manifest, a peer or the user. -/
def OnlyCompared (es : List (Exchange Call.Reply)) : Prop :=
  ∀ e ∈ es, e.call = .published frameworkPackage ∨
    (∃ key, e.call = .release frameworkPackage key) ∨ e.call = .installed frameworkPackage

/-- The exchanges of a completed upgrade, with the write of the manifest in the middle. -/
structure Committed (es : List (Exchange Call.Reply)) : Prop where
  split : ∃ before m installing transforming migrating,
    es = before ++ ⟨.writeManifest m, .ok ()⟩ :: (installing ++ (transforming ++ migrating)) ∧
    (∀ e ∈ before, e.call.stage = .enquiry) ∧
    (∀ e ∈ installing, e.call.stage = .installation) ∧
    (∀ e ∈ transforming, e.call.stage = .codemods) ∧
    (∀ e ∈ migrating, e.call.stage = .recipes)
  readOnce : es.countP (·.call.isRead) = 1

/-- What the exchanges of an upgrade are, by the way in which it ends. -/
def CommitPoint (es : List (Exchange Call.Reply)) : Except Fault Outcome → Prop
  | .error fault => Aborted fault es
  | .ok (.alreadyCurrent _ _) => OnlyCompared es
  | .ok (.completed _) => Committed es

/-- A dialogue that does not read the manifest has no read among its exchanges. -/
theorem countP_isRead_eq_zero {α : Type} {p : Call → Prop} {d : Script α} (hd : d.Asks p)
    {es : List (Exchange Call.Reply)} {r : Except Fault α} (h : d.Course es r)
    (hp : ∀ c, p c → c.isRead = false) : es.countP (·.call.isRead) = 0 := by
  rw [List.countP_eq_zero]
  intro e he
  rw [hp _ (hd.of_course h e he)]
  exact Bool.false_ne_true

/-- The manifest is read once while an upgrade is prepared. -/
theorem Preparation.readOnce {x : Context} {target : Target} {installed : Version}
    {applicable : List Codemod} {es : List (Exchange Call.Reply)} {p : Prepared}
    (d : Preparation x target installed applicable es p) : es.countP (·.call.isRead) = 1 := by
  have hpinning : d.pinning.countP (·.call.isRead) = 0 :=
    countP_isRead_eq_zero (Resolve.asks_peers _) d.resolved (by rintro _ ⟨_, _, rfl⟩; rfl)
  have hchoosing : d.choosing.countP (·.call.isRead) = 0 :=
    countP_isRead_eq_zero (Plan.asks_chosen _ _) d.chosen (by rintro _ rfl; rfl)
  have hasking : d.asking.countP (·.call.isRead) = 0 :=
    countP_isRead_eq_zero (FollowUp.asks_wanted _ _ _ _) d.asked
      (by rintro _ (rfl | ⟨_, rfl⟩) <;> rfl)
  rw [d.exchanges, List.countP_cons_of_pos rfl, List.countP_append, List.countP_append,
    hpinning, hchoosing, hasking]

/-- No call after the manifest is written is an enquiry, so none reads the manifest. -/
theorem Completion.countP_isRead_after {x : Context} {token : String}
    {es : List (Exchange Call.Reply)} {r : Report} (c : Completion x token es r) :
    c.after.countP (·.call.isRead) = 0 := by
  rw [List.countP_eq_zero]
  intro e he hread
  apply (c.stage_after e he).1
  cases hc : e.call <;> simp_all [Call.isRead, Call.stage]

/-- The exchanges of a completed upgrade lie around its one write. -/
theorem Completion.committed {x : Context} {token : String} {es : List (Exchange Call.Reply)}
    {r : Report} (c : Completion x token es r) : Committed es where
  split := ⟨c.before, _, c.installing, c.transforming, c.migrating, c.exchanges_eq, c.enquiries,
    stage_of_install c.installed, stage_of_applyCodemods c.transformed,
    stage_of_applyRecipes c.migrated⟩
  readOnce := by
    obtain ⟨d⟩ := preparation_of_course c.prepares
    have hresolving : c.resolving.countP (·.call.isRead) = 0 :=
      countP_isRead_eq_zero (Resolve.asks_target _ _) c.resolved
        (by rintro _ (rfl | ⟨_, rfl⟩) <;> rfl)
    rw [c.exchanges_eq, List.countP_append, before, List.countP_append, hresolving,
      List.countP_cons_of_neg Bool.false_ne_true, d.readOnce,
      List.countP_cons_of_neg Bool.false_ne_true, c.countP_isRead_after]

/-- Whatever the outline of an upgrade is, it has one of the three forms, with its writing at most
once. -/
theorem Outline.commitPoint {x : Context} {token : String} {es : List (Exchange Call.Reply)}
    {r : Except Fault Outcome} (o : Outline x token es r) : CommitPoint es r := by
  cases o with
  | refused fault enquiries => exact .inl enquiries
  | unwritten m fault enquiries => exact .inr ⟨_, m, rfl, enquiries⟩
  | current resolved decided =>
    -- Resolving asks about the framework only, and so does the one lookup after it.
    intro e he
    rcases List.mem_append.mp he with he | he
    · rcases (Resolve.asks_target _ _).of_course resolved e he with h | h
      · exact .inl h
      · exact .inr (.inl h)
    · rw [List.mem_singleton.mp he]
      exact .inr (.inr rfl)
  | completed c => exact c.committed

/-- Whoever the collaborators are and whatever they answer, the exchanges of an upgrade lie
around its one write as `CommitPoint` says. -/
theorem commitPoint_run {σ : Type} (h : Handler Call.Reply σ) (x : Context) (token : String)
    (s : σ) :
    CommitPoint ((run x token).exchanges h s) ((run x token).run h s).1 :=
  (outline_of_course (course_run h (run x token) s)).commitPoint

end Upgrade

end FrameworkUpgrade
