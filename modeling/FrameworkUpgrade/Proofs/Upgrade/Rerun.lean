import FrameworkUpgrade.Proofs.Manifest.Settled
import FrameworkUpgrade.Proofs.Upgrade.Pins
import FrameworkUpgrade.Proofs.Upgrade.Record

/-!
# `FrameworkUpgrade.Proofs.Upgrade.Rerun`: an upgrade that is run again

An upgrade whose installation fails has written its manifest already, and is run again on the
project as it then is. `Revisits` says what the second run meets: the registry and the installed
packages answer as before, and the manifest is the one that was written. `Repeats` says what it
does: it makes the calls of the first run once more, so it installs the same packages in the same
groups, applies the same codemods and writes the manifest that it has read. Only the versions
that it reports as declared before are new: they are the pins of the first run.

`rerun_of_completed` states it for an upgrade that asks nobody. What the second run is told by
the manifest is settled by the first run. Each pin leaves the manifest as it is, and the types
are declared in the one manifest when they are in the other, so that the same peers are wanted.
-/

set_option autoImplicit false

namespace FrameworkUpgrade

open Dialogue

/-- Whether a call looks something up, in the registry or among the installed packages. -/
def Call.isLookup : Call → Bool
  | .release _ _ | .published _ | .installed _ => true
  | _ => false

namespace Upgrade

/-! ### Pins that are made again -/

/-- Pins of other packages keep a manifest settled. -/
theorem settled_pinAll_of_not_mem {m : Manifest} {package version : String} {ps : List Pin}
    (h : m.Settled package version) (hpackage : package ∉ ps.map Pin.package) :
    (pinAll m ps).1.Settled package version := by
  induction ps generalizing m with
  | nil => exact h
  | cons p ps ih =>
    rw [List.map_cons, List.mem_cons, not_or] at hpackage
    exact ih (h.pin_ne hpackage.1 p.version.text) hpackage.2

/-- Pins for distinct packages settle the manifest for all of them. -/
theorem settled_pinAll {ps : List Pin} (hnodup : (ps.map Pin.package).Nodup) (m : Manifest) :
    ∀ p ∈ ps, (pinAll m ps).1.Settled p.package p.version.text := by
  induction ps generalizing m with
  | nil => exact nofun
  | cons p ps ih =>
    obtain ⟨hfresh, hnodup⟩ := List.nodup_cons.mp hnodup
    intro q hq
    show (pinAll (m.pin p.package p.version.text) ps).1.Settled q.package q.version.text
    rcases List.mem_cons.mp hq with rfl | hq
    · -- Its own pin settles it, and the later ones are for other packages.
      exact settled_pinAll_of_not_mem (m.settled_pin q.package q.version.text) hfresh
    · exact ih hnodup (m.pin p.package p.version.text) q hq

/-- Pins leave a manifest that is settled for each of them. -/
theorem pinAll_of_settled {m : Manifest} {ps : List Pin}
    (h : ∀ p ∈ ps, m.Settled p.package p.version.text) : (pinAll m ps).1 = m := by
  induction ps with
  | nil => rfl
  | cons p ps ih =>
    show (pinAll (m.pin p.package p.version.text) ps).1 = m
    rw [(h p List.mem_cons_self).pin_eq]
    exact ih fun q hq => h q (List.mem_cons_of_mem _ hq)

/-- To make the same pins again changes nothing, if their packages are distinct. -/
theorem pinAll_pinAll {ps : List Pin} (hnodup : (ps.map Pin.package).Nodup) (m : Manifest) :
    (pinAll (pinAll m ps).1 ps).1 = (pinAll m ps).1 :=
  pinAll_of_settled (settled_pinAll hnodup m)

/-! ### What is wanted again -/

section

variable {x : Context} {target : Target} {installed : Version} {applicable : List Codemod}
  {es : List (Exchange Call.Reply)} {p : Prepared}

/-- Only declared types are pinned. -/
theorem Preparation.declares_of_pin (d : Preparation x target installed applicable es p)
    {pin : Pin} (hpin : pin ∈ p.pins) (htypes : pin.package ∈ [reactTypes, reactDomTypes]) :
    p.manifest.declares pin.package = true := by
  obtain ⟨version, hpinned⟩ := d.pinnedTo
  rw [hpinned.pins_eq, List.mem_cons, List.mem_append] at hpin
  -- A pin is for the framework, for React and its companion, or for types that are declared.
  rcases hpin with rfl | hreact | hpin
  · exact absurd htypes (show frameworkPackage ∉ [reactTypes, reactDomTypes] by decide)
  · unfold reactPins at hreact
    split at hreact
    · simp only [List.mem_cons, List.not_mem_nil, or_false] at hreact
      rcases hreact with rfl | rfl
      · exact absurd htypes (show reactPackage ∉ [reactTypes, reactDomTypes] by decide)
      · exact absurd htypes (show reactDomPackage ∉ [reactTypes, reactDomTypes] by decide)
    · cases hreact
  · obtain ⟨package, hpackage, rfl⟩ := List.mem_map.mp hpin
    exact (Bool.and_eq_true_iff.mp (List.mem_filter.mp hpackage).2).1

/-- The types are declared after the pins when they were before. -/
theorem Preparation.declares_pinAll (d : Preparation x target installed applicable es p)
    {package : String} (htypes : package ∈ [reactTypes, reactDomTypes]) :
    (pinAll p.manifest p.pins).1.declares package = p.manifest.declares package := by
  by_cases hmem : package ∈ p.pins.map Pin.package
  -- A package that is declared accepts its pin, so it is declared afterwards too.
  · obtain ⟨pin, hpin, rfl⟩ := List.mem_map.mp hmem
    have hdeclares := d.declares_of_pin hpin htypes
    rw [hdeclares, Manifest.declares, declared?_pinAll_of_mem d.nodup_packages hpin,
      if_pos (Manifest.acceptsPin_of_declares hdeclares)]
    rfl
  · rw [Manifest.declares, declared?_pinAll_of_not_mem hmem, Manifest.declares]

/-- The pins of an upgrade have no bearing on which peers are wanted. -/
theorem Preparation.wantedPeers_pinAll (d : Preparation x target installed applicable es p) :
    wantedPeers target (pinAll p.manifest p.pins).1 = wantedPeers target p.manifest := by
  have htypes := List.filter_congr fun package (h : package ∈ [reactTypes, reactDomTypes]) =>
    d.declares_pinAll h
  rw [wantedPeers, wantedPeers, htypes]

end

/-! ### Upgrades that ask nobody -/

/-- An upgrade that asks nobody chooses all codemods. -/
theorem course_chosen_silent {codemods : List Codemod} {es : List (Exchange Call.Reply)}
    {r : Except Fault (List Codemod)} :
    (Plan.chosen false codemods).Course es r ↔ es = [] ∧ r = .ok codemods := by
  unfold Plan.chosen
  exact course_pure _ _ _

/-- An upgrade that asks nobody wants no follow-up work. -/
theorem course_wanted_silent {target : Target} {pins : List Pin} {m : Manifest}
    {es : List (Exchange Call.Reply)} {r : Except Fault FollowUps} :
    (FollowUp.wanted false target pins m).Course es r ↔ es = [] ∧ r = .ok {} := by
  unfold FollowUp.wanted
  exact course_pure _ _ _

/-- Without follow-up work the manifest has the pins and is changed in nothing else. -/
theorem revised_silent {p : Prepared} (h : p.followUps = {}) :
    revised p = ((pinAll p.manifest p.pins).1, (pinAll p.manifest p.pins).2, false) := by
  rw [revised, h]
  rfl

section

variable {x : Context} {target : Target} {installed : Version} {applicable : List Codemod}
  {es : List (Exchange Call.Reply)} {p : Prepared}

/-- What is prepared without questions: the manifest is read, and versions are looked for. -/
theorem Preparation.silent (d : Preparation x target installed applicable es p)
    (hprompts : x.prompts = false) :
    es = ⟨.readManifest, .ok p.manifest⟩ :: d.pinning ∧ p.codemods = applicable ∧
      p.followUps = {} := by
  have hchosen := d.chosen
  have hasked := d.asked
  rw [hprompts, course_chosen_silent] at hchosen
  rw [hprompts, course_wanted_silent] at hasked
  refine ⟨d.exchanges.trans ?_, Except.ok.inj hchosen.2, Except.ok.inj hasked.2⟩
  rw [hchosen.1, hasked.1, List.append_nil, List.append_nil]

/-- The preparation goes the same way once more with the manifest that has the pins. -/
theorem Preparation.course_rerun (d : Preparation x target installed applicable es p)
    (hprompts : x.prompts = false) {m : Manifest} (hm : (pinAll p.manifest p.pins).1 = m) :
    (prepareNewer x target installed applicable).Course
      (⟨.readManifest, .ok m⟩ :: d.pinning) (.ok { p with manifest := m }) := by
  obtain ⟨_, hcodemods, hfollowUps⟩ := d.silent hprompts
  have hwanted : wantedPeers target m = wantedPeers target p.manifest := hm ▸ d.wantedPeers_pinAll
  let again : Preparation x target installed applicable (⟨.readManifest, .ok m⟩ :: d.pinning)
      { p with manifest := m } :=
    { peers := d.peers, pinning := d.pinning, choosing := [], asking := []
      exchanges := by rw [List.append_nil, List.append_nil]
      resolved := hwanted ▸ d.resolved
      chosen := by
        rw [hprompts, course_chosen_silent, hcodemods]
        exact ⟨rfl, rfl⟩
      asked := by
        rw [hprompts, course_wanted_silent, hfollowUps]
        exact ⟨rfl, rfl⟩
      installed_eq := d.installed_eq, target_eq := d.target_eq, pins_eq := d.pins_eq }
  exact again.course

end

/-! ### The run that could follow -/

/-- Where an exchange comes from that is made once more: it looks something up as an earlier one
did, reads the manifest `m`, writes, or takes a step. -/
inductive Replayed (es : List (Exchange Call.Reply)) (m : Manifest) :
    Exchange Call.Reply → Prop where
  | lookup {e : Exchange Call.Reply} (mem : e ∈ es) (h : e.call.isLookup = true) : Replayed es m e
  | read : Replayed es m ⟨.readManifest, .ok m⟩
  | write (m' : Manifest) : Replayed es m ⟨.writeManifest m', .ok ()⟩
  | step {e : Exchange Call.Reply} (h : e.call.IsStep) : Replayed es m e

namespace Completion

variable {x : Context} {token : String} {es : List (Exchange Call.Reply)} {r : Report}

/-- The exchanges of a completed upgrade with another manifest, which is read and written. -/
def replay (c : Completion x token es r)
    (d : Preparation x c.target r.installed c.applicable c.preparing c.prepared) (m : Manifest) :
    List (Exchange Call.Reply) :=
  c.resolving ++ ⟨.installed frameworkPackage, .ok r.installed⟩ ::
    ((⟨.readManifest, .ok m⟩ :: d.pinning) ++ ⟨.writeManifest m, .ok ()⟩ ::
      (c.installing ++ (c.transforming ++ c.migrating)))

variable (c : Completion x token es r)
  (d : Preparation x c.target r.installed c.applicable c.preparing c.prepared) {m : Manifest}

/-- The calls are the same with the manifest that was written. -/
theorem calls_replay (hprompts : x.prompts = false) (hm : (revised c.prepared).1 = m) :
    (c.replay d m).map Exchange.call = es.map Exchange.call := by
  have hread : c.preparing.map Exchange.call = .readManifest :: d.pinning.map Exchange.call :=
    congrArg (List.map Exchange.call) (d.silent hprompts).1
  have hcalls := congrArg (List.map Exchange.call) c.exchanges
  rw [List.map_append, List.map_cons, List.map_append, hread, hm] at hcalls
  rw [hcalls, replay, List.map_append, List.map_cons, List.map_append]
  rfl

/-- Whatever is made once more looks something up as before, reads the manifest, writes it, or takes
a step. -/
theorem replayed_of_mem {e : Exchange Call.Reply} (he : e ∈ c.replay d m) : Replayed es m e := by
  rw [replay, List.mem_append, List.mem_cons, List.mem_append, List.mem_cons, List.mem_cons] at he
  -- In the order of an upgrade: the target, the installed version, the manifest, the peers, the
  -- write and the steps.
  rcases he with he | rfl | (rfl | he) | rfl | he
  · have hmem : e ∈ es := by
      rw [c.exchanges]
      exact List.mem_append_left _ he
    refine .lookup hmem ?_
    rcases (Resolve.asks_target _ _).of_course c.resolved e he with hc | ⟨_, hc⟩
    · rw [hc]
      rfl
    · rw [hc]
      rfl
  · refine .lookup ?_ rfl
    rw [c.exchanges]
    exact List.mem_append_right _ List.mem_cons_self
  · exact .read
  · refine .lookup (c.preparing_infix.subset (d.pinning_infix.subset he)) ?_
    obtain ⟨w, _, hc⟩ := (Resolve.asks_peers _).of_course d.resolved e he
    rw [hc]
    rfl
  · exact .write m
  · exact .step (c.stage_after e he)

/-- A completed upgrade that asks nobody could be run once more, with the manifest that it has
written. -/
theorem exists_rerun (c : Completion x token es r) (hprompts : x.prompts = false) {m : Manifest}
    (hm : (revised c.prepared).1 = m) :
    ∃ es₂ r₂, Nonempty (Completion x token es₂ r₂) ∧
      es₂.map Exchange.call = es.map Exchange.call ∧ (∀ e ∈ es₂, Replayed es m e) ∧
      es₂.filterMap Exchange.written? = [m] ∧ r₂.pinned = (pinAll m c.prepared.pins).2 := by
  obtain ⟨d⟩ := preparation_of_course c.prepares
  have hfollowUps := (d.silent hprompts).2.2
  have hrevised := revised_silent hfollowUps
  have hpins : (pinAll c.prepared.manifest c.prepared.pins).1 = m := by rw [← hm, hrevised]
  -- The pins leave the manifest, so it is written as it was read.
  have hagain : revised { c.prepared with manifest := m } =
      (m, (pinAll m c.prepared.pins).2, false) := by
    have hsame : (pinAll m c.prepared.pins).1 = m := by
      rw [← hpins]
      exact pinAll_pinAll d.nodup_packages c.prepared.manifest
    rw [revised_silent (p := { c.prepared with manifest := m }) hfollowUps, hsame]
  let again : Completion x token (c.replay d m)
      { r with pinned := (pinAll m c.prepared.pins).2 } :=
    { target := c.target, applicable := c.applicable
      prepared := { c.prepared with manifest := m }
      resolving := c.resolving, preparing := ⟨.readManifest, .ok m⟩ :: d.pinning
      installing := c.installing, transforming := c.transforming, migrating := c.migrating
      exchanges := by rw [hagain, replay]
      resolved := c.resolved, decided := c.decided
      prepares := d.course_rerun hprompts hpins
      installed := by
        rw [hagain, ← hm]
        exact c.installed
      transformed := c.transformed, migrated := c.migrated
      target_eq := c.target_eq
      pinned_eq := by rw [hagain]
      turbopack_eq := by rw [hagain, c.turbopack_eq, hrevised] }
  refine ⟨_, _, ⟨again⟩, c.calls_replay d hprompts hm, fun e => c.replayed_of_mem d, ?_, rfl⟩
  rw [again.written_eq, hagain]

end Completion

/-! ### The run that follows -/

/-- What an upgrade meets that is run after another one has written the manifest `m`. -/
structure Revisits (es es' : List (Exchange Call.Reply)) (m : Manifest) : Prop where
  lookups : ∃ known : (c : Call) → c.Reply,
    ∀ e ∈ es ++ es', e.call.isLookup = true → e.reply = known e.call
  read : ∀ reply, (⟨.readManifest, reply⟩ : Exchange Call.Reply) ∈ es' → reply = .ok m
  write : ∀ m' reply, (⟨.writeManifest m', reply⟩ : Exchange Call.Reply) ∈ es' → reply = .ok ()

/-- What an upgrade does that is run after another one has written the manifest `m`: the same
calls in the same order. -/
structure Repeats (es es' : List (Exchange Call.Reply)) (r r' : Report) (m : Manifest) :
    Prop where
  calls : es'.map Exchange.call = es.map Exchange.call
  written : es'.filterMap Exchange.written? = [m]
  pins : r'.pinned.map WrittenPin.pin = r.pinned.map WrittenPin.pin
  previous : ∀ w ∈ r'.pinned, w.previous = m.declared? w.pin.package
  kept : ∀ w ∈ r'.pinned, m.declared? w.pin.package = some w.pin.version.text →
    w.previous = some w.pin.version.text

/-- The run that follows is answered as the run that could follow, except for its steps. -/
theorem Revisits.sameReplies {es es₂ es' : List (Exchange Call.Reply)} {m : Manifest}
    (h : Revisits es es' m) (hreplayed : ∀ e ∈ es₂, Replayed es m e) :
    SameReplies Call.IsStep es₂ es' := by
  obtain ⟨known, hknown⟩ := h.lookups
  rintro ⟨⟨c, reply⟩, ⟨c', reply'⟩⟩ hmem hcall hstep
  obtain ⟨h₂, h'⟩ := List.of_mem_zip hmem
  obtain rfl : c = c' := hcall
  -- Of the replies to steps nothing is known, and `hstep` leaves them out.
  cases hreplayed _ h₂ with
  | lookup hes hlookup =>
    have hfirst : reply = known c := hknown _ (List.mem_append_left _ hes) hlookup
    have hsecond : reply' = known c := hknown _ (List.mem_append_right _ h') hlookup
    rw [hfirst, hsecond]
  | read => rw [h.read reply' h']
  | write m' => rw [h.write m' reply' h']
  | step hc => exact absurd hc hstep

/-- A run that ends like a completed one is completed, and the reports differ in their steps
alone. -/
theorem exists_completed_of_sameEnd {r : Report} {end' : Except Fault Outcome}
    (h : SameEnd SameOutcome (.ok (.completed r)) end') :
    ∃ r', end' = .ok (.completed r') ∧ SameButSteps r r' := by
  cases h with
  | ok houtcome =>
    cases houtcome with
    | completed hsteps => exact ⟨_, rfl, hsteps⟩

/-- An upgrade that asks nobody and is run again on the project that it has left behind is
completed, and repeats what it did, whatever was replied to its installations and codemods. -/
theorem rerun_of_completed {σ σ' : Type} (h : Handler Call.Reply σ) (h' : Handler Call.Reply σ')
    (x : Context) (token : String) (s : σ) (s' : σ') {r : Report} {m : Manifest}
    (hprompts : x.prompts = false)
    (hrun : ((run x token).run h s).1 = .ok (.completed r))
    (hwritten : ((run x token).exchanges h s).filterMap Exchange.written? = [m])
    (hrevisits : Revisits ((run x token).exchanges h s) ((run x token).exchanges h' s') m) :
    ∃ r', ((run x token).run h' s').1 = .ok (.completed r') ∧
      Repeats ((run x token).exchanges h s) ((run x token).exchanges h' s') r r' m := by
  obtain ⟨c⟩ := completion_of_run hrun
  have hm : (revised c.prepared).1 = m := by
    rw [c.written_eq] at hwritten
    exact List.head_eq_of_cons_eq hwritten
  obtain ⟨es₂, r₂, ⟨c₂⟩, hcalls, hreplayed, hwritten₂, hpinned⟩ := c.exists_rerun hprompts hm
  -- The second run is compared with one that was put together from the first.
  have hsame := hrevisits.sameReplies hreplayed
  obtain ⟨hcalls', hends⟩ := (lockstep_run x token).course c₂.course (course_run h' _ s') hsame
  obtain ⟨r', hrun', hsteps⟩ := exists_completed_of_sameEnd hends
  obtain ⟨d⟩ := preparation_of_course c.prepares
  have hpinned' : r'.pinned = (pinAll m c.prepared.pins).2 := hsteps.pinned.symm.trans hpinned
  have hprevious : ∀ w ∈ r'.pinned, w.previous = m.declared? w.pin.package := by
    rw [hpinned']
    exact previous_pinAll d.nodup_packages m
  refine ⟨r', hrun', hcalls'.symm.trans hcalls, ?_, ?_, hprevious, ?_⟩
  · rw [← hsame.filterMap_eq (fun e he => Exchange.written?_eq_none he.2) hcalls', hwritten₂]
  · rw [hpinned', pins_pinAll, c.pins_eq]
  · intro w hw hkept
    rw [hprevious w hw, hkept]

end Upgrade

/-! ### A project whose installation fails -/

namespace Rehearsal

/-- The collaborators of a rehearsal, which answer a call in the same way every time. -/
def steady (r : Rehearsal) : Handler Call.Reply Unit where
  answer c _ := ((reply c r).1, ())
  display _ _ := ()

/-- A steady rehearsal replies to every call as at the start. -/
theorem reply_of_steady {α : Type} (r : Rehearsal) (d : Script α) :
    ∀ e ∈ d.exchanges r.steady (), e.reply = (reply e.call r).1 := by
  induction d with
  | done a => exact nofun
  | fail fault => exact nofun
  | say text next ih => exact ih
  | ask c next ih =>
    intro e he
    rcases List.mem_cons.mp he with rfl | he
    · rfl
    · exact ih _ e he

end Rehearsal

namespace Upgrade

/-- An upgrade with two codemods and without a user who can be asked. -/
def rerunContext : Context :=
  { isolatedContext with prompts := false }

/-- The manifest that the upgrade writes. -/
def rerunManifest : Manifest :=
  ⟨[("dependencies", .object [("react", .text "19.0.0"), ("next", .text "15.1.0"),
      ("react-dom", .text "19.0.0")]),
    ("devDependencies", .object [("@types/react", .text "19.0.1")])]⟩

/-- The project in the first run, in which both installations and both codemods fail. -/
def failingProject : Rehearsal :=
  isolatedProject manyFailures

/-- The project in the second run, in which nothing fails. -/
def writtenProject : Rehearsal :=
  { isolatedProject {} with manifest := rerunManifest }

/-- The second run meets what the first one has left behind. -/
theorem revisits_failing :
    Revisits ((run rerunContext "15.1.0").exchanges failingProject.steady ())
      ((run rerunContext "15.1.0").exchanges writtenProject.steady ()) rerunManifest where
  lookups := by
    refine ⟨fun c => (Rehearsal.reply c failingProject).1, fun e he hlookup => ?_⟩
    rcases List.mem_append.mp he with he | he
    · exact Rehearsal.reply_of_steady failingProject _ e he
    · rw [Rehearsal.reply_of_steady writtenProject _ e he]
      -- The two projects have the same registry and the same installed packages.
      obtain ⟨c, reply⟩ := e
      cases c with
      | release | published | installed => rfl
      | _ => cases hlookup
  read reply h := Rehearsal.reply_of_steady writtenProject _ _ h
  write m' reply h := Rehearsal.reply_of_steady writtenProject _ _ h

/-- The report of the first run. -/
def failingReport : Report :=
  { isolatedReport
      (.failed ("; ".intercalate [(Fault.install (.reported "no network")).message,
        (Fault.install (.reported "no space")).message]))
      (recordedFailure "b" "exit 2") (recordedFailure "d" "exit 1") .succeeded .succeeded with
    recipes := [] }

/-- The report of the second run. The versions before are those that the first run has
written. -/
def writtenReport : Report :=
  { isolatedReport .succeeded .succeeded .succeeded .succeeded .succeeded with
    pinned := failingReport.pinned.map fun w => ⟨w.pin, some w.pin.version.text⟩
    recipes := [] }

/-- The second run makes the installations that failed in the first. -/
theorem rerun_failing :
    ((run rerunContext "15.1.0").run failingProject.steady ()).1 =
      .ok (.completed failingReport) ∧
    ((run rerunContext "15.1.0").run writtenProject.steady ()).1 =
      .ok (.completed writtenReport) ∧
    Repeats ((run rerunContext "15.1.0").exchanges failingProject.steady ())
      ((run rerunContext "15.1.0").exchanges writtenProject.steady ()) failingReport writtenReport
      rerunManifest ∧
    failingReport.isClean = false ∧ writtenReport.isClean = true := by
  have hrun : ((run rerunContext "15.1.0").run failingProject.steady ()).1 =
      .ok (.completed failingReport) := by with_unfolding_all rfl
  have hrun' : ((run rerunContext "15.1.0").run writtenProject.steady ()).1 =
      .ok (.completed writtenReport) := by with_unfolding_all rfl
  have hwritten : ((run rerunContext "15.1.0").exchanges failingProject.steady ()).filterMap
      Exchange.written? = [rerunManifest] := by with_unfolding_all rfl
  obtain ⟨r', hend, hrepeats⟩ := rerun_of_completed failingProject.steady writtenProject.steady
    rerunContext "15.1.0" () () rfl hrun hwritten revisits_failing
  obtain rfl : writtenReport = r' := by
    rw [hrun'] at hend
    injection hend with houtcome
    injection houtcome
  exact ⟨hrun, hrun', hrepeats, rfl, rfl⟩

end Upgrade

end FrameworkUpgrade
