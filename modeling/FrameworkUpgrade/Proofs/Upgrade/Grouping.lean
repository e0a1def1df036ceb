import FrameworkUpgrade.Proofs.Upgrade.Record

/-!
# `FrameworkUpgrade.Proofs.Upgrade.Grouping`: which call installs a package

A completed upgrade installs the packages that it has pinned, those for running the project
by one call and those for making it by another. `Grouped` says how the pins are divided:

* every specifier is in exactly one call, once, and no call has anything else;
* there are two calls at most, none of them is empty, and the one for running the project
  comes first;
* a call keeps the order of the pins, and is silent unless the upgrade is verbose;
* a package is in the call for making the project when the manifest that was read has it in
  `devDependencies` and not in `dependencies`, and only then.

`calls_eq` gives the calls as a formula in that manifest and the pins. The replies do not
occur in it, so the second call is made after a first one that fails. The upgrade itself
looks at the manifest with the pins in it, and `isDevOnly_revised` says that this is the same.
-/

set_option autoImplicit false

namespace FrameworkUpgrade

open Dialogue

namespace Upgrade

/-! ### Pins leave packages where they are -/

/-- Any number of pins leave a package where it is. -/
theorem isDevOnly_pinAll (m : Manifest) (ps : List Pin) (package : String) :
    (pinAll m ps).1.isDevOnly package = m.isDevOnly package := by
  induction ps generalizing m with
  | nil => rfl
  | cons p ps ih =>
    show (pinAll (m.pin p.package p.version.text) ps).1.isDevOnly package = _
    rw [ih, Manifest.isDevOnly_pin]

/-- The manifest to write has the same packages only for making the project as the manifest
that was read. -/
theorem isDevOnly_revised (p : Prepared) (package : String) :
    (revised p).1.isDevOnly package = p.manifest.isDevOnly package := by
  unfold revised
  cases p.followUps.turbopack with
  | true =>
    show (pinAll p.manifest p.pins).1.enableTurbopack.1.isDevOnly package = _
    rw [Manifest.isDevOnly_enableTurbopack, isDevOnly_pinAll]
  | false => exact isDevOnly_pinAll p.manifest p.pins package

/-- The groups are the same of the manifest that was read and of the one that is written. -/
theorem installGroup_revised (p : Prepared) (dev : Bool) :
    installGroup (revised p).1 p.pins dev = installGroup p.manifest p.pins dev := by
  simp only [installGroup, isDevOnly_revised]

end Upgrade

/-! ### Specifiers -/

/-- A specifier is the package, an at sign and the version. -/
theorem Pin.toList_specifier (p : Pin) :
    p.specifier.toList = (p.package.toList ++ ['@']) ++ p.version.chars := by
  simp [specifier, Version.text, toString]

/-- No name of a package that is pinned, with the mark behind it, begins another one. -/
theorem eq_of_marked : ∀ a ∈ Upgrade.pinnable, ∀ b ∈ Upgrade.pinnable,
    a.toList ++ ['@'] <+: b.toList ++ ['@'] → a = b := by
  decide

/-- A specifier names its package. -/
theorem Pin.package_eq_of_specifier_eq {p q : Pin} (hp : p.package ∈ Upgrade.pinnable)
    (hq : q.package ∈ Upgrade.pinnable) (h : p.specifier = q.specifier) :
    p.package = q.package := by
  have hchars : (p.package.toList ++ ['@']) ++ p.version.chars =
      (q.package.toList ++ ['@']) ++ q.version.chars := by
    rw [← toList_specifier, ← toList_specifier, h]
  -- Both names begin the same text, so one of them begins the other.
  have hbegins : p.package.toList ++ ['@'] <+:
      (q.package.toList ++ ['@']) ++ q.version.chars := ⟨_, hchars⟩
  rcases List.prefix_or_prefix_of_prefix hbegins (List.prefix_append _ _) with hpq | hqp
  · exact eq_of_marked _ hp _ hq hpq
  · exact (eq_of_marked _ hq _ hp hqp).symm

namespace Upgrade

/-- Pins for different packages have different specifiers. -/
theorem nodup_specifiers {ps : List Pin} (h : (ps.map Pin.package).Sublist pinnable) :
    (ps.map Pin.specifier).Nodup := by
  have hnodup : (ps.map Pin.package).Nodup := List.Nodup.sublist h (by decide)
  have hpinnable : ∀ p ∈ ps, p.package ∈ pinnable :=
    fun p hp => h.subset (List.mem_map_of_mem hp)
  apply List.Nodup.map_on _ (List.Nodup.of_map Pin.package hnodup)
  intro p hp q hq hspecifier
  have hpackage := Pin.package_eq_of_specifier_eq (hpinnable p hp) (hpinnable q hq) hspecifier
  exact List.inj_on_of_nodup_map hnodup hp hq hpackage

end Upgrade

/-! ### Calls that install -/

/-- A call that installs packages: the specifiers, whether they are for making the project,
and whether the package manager is told to be silent. -/
structure InstallCall where
  specifiers : List String
  dev : Bool
  silent : Bool
deriving DecidableEq, Repr

/-- The call of an exchange that installs packages. -/
def Exchange.installCall? : Exchange Call.Reply → Option InstallCall
  | ⟨.install specifiers dev silent, _⟩ => some ⟨specifiers, dev, silent⟩
  | _ => none

/-- Only an exchange of the installation is one that installs. -/
theorem Exchange.installCall?_eq_none {e : Exchange Call.Reply}
    (h : e.call.stage ≠ .installation) : e.installCall? = none := by
  obtain ⟨c, reply⟩ := e
  cases c with
  | install => exact absurd rfl h
  | _ => rfl

namespace Upgrade

/-- The calls that install pins, by the manifest in which their packages are looked up. -/
def installCalls (m : Manifest) (pins : List Pin) (silent : Bool) : List InstallCall :=
  [InstallCall.mk (installGroup m pins false) false silent,
    InstallCall.mk (installGroup m pins true) true silent].filter
      fun call => !call.specifiers.isEmpty

/-- An installation makes the calls for its groups that are not empty, in their order. -/
theorem calls_of_install {x : Context} {m : Manifest} {pins : List Pin}
    {es : List (Exchange Call.Reply)} {result : StepResult}
    (h : (install x m pins).Course es (.ok result)) :
    es.filterMap Exchange.installCall? = installCalls m pins (!x.verbose) := by
  obtain ⟨failures, front, back, rfl, hgroups, hend⟩ := (course_bind_ok _ _ _ _).mp h
  obtain ⟨rfl, -⟩ := (course_pure _ _ _).mp hend
  obtain ⟨steps, hsteps, rfl, -⟩ := course_installGroups hgroups
  have hcalls : (steps.map fun s => (⟨.install s.1.1 s.1.2 (!x.verbose), s.2⟩ :
      Exchange Call.Reply)).filterMap Exchange.installCall? =
      (steps.map Prod.fst).map fun group => ⟨group.1, group.2, !x.verbose⟩ := by
    rw [List.filterMap_map, List.map_map]
    exact congrFun List.filterMap_eq_map steps
  rw [List.append_nil, hcalls, hsteps]
  -- A group is empty when its call would be.
  cases hruntime : (installGroup m pins false).isEmpty <;>
    cases hdev : (installGroup m pins true).isEmpty <;>
      simp [installCalls, hruntime, hdev]

/-- The calls are the same for the manifest that was read and for the one that is written. -/
theorem installCalls_revised (p : Prepared) (silent : Bool) :
    installCalls (revised p).1 p.pins silent = installCalls p.manifest p.pins silent := by
  simp only [installCalls, installGroup_revised]

/-! ### How the pins are divided -/

section Division

variable {m : Manifest} {pins : List Pin} {silent : Bool} {call : InstallCall}

/-- A call is for one of the groups, and that one is not empty. -/
theorem mem_installCalls :
    call ∈ installCalls m pins silent ↔
      call = ⟨installGroup m pins call.dev, call.dev, silent⟩ ∧ call.specifiers ≠ [] := by
  obtain ⟨specifiers, dev, silent'⟩ := call
  simp only [installCalls, List.mem_filter, List.mem_cons, List.not_mem_nil, or_false,
    InstallCall.mk.injEq, Bool.not_eq_true', List.isEmpty_eq_false_iff]
  cases dev with
  | false => simp
  | true => simp

/-- Where different pins have different specifiers, a pin is in the group of its package. -/
theorem mem_installGroup (hnodup : (pins.map Pin.specifier).Nodup) {p : Pin} (hp : p ∈ pins)
    {dev : Bool} : p.specifier ∈ installGroup m pins dev ↔ m.isDevOnly p.package = dev := by
  rw [installGroup, List.mem_map]
  constructor
  · rintro ⟨q, hq, hspecifier⟩
    obtain ⟨hq, hdev⟩ := List.mem_filter.mp hq
    obtain rfl : q = p := List.inj_on_of_nodup_map hnodup hq hp hspecifier
    exact eq_of_beq hdev
  · intro hdev
    exact ⟨p, List.mem_filter.mpr ⟨hp, beq_iff_eq.mpr hdev⟩, rfl⟩

/-- The calls together have the specifiers of all pins. -/
theorem specifiers_installCalls (m : Manifest) (pins : List Pin) (silent : Bool) :
    ((installCalls m pins silent).flatMap InstallCall.specifiers).Perm
      (pins.map Pin.specifier) := by
  have hcalls : (installCalls m pins silent).flatMap InstallCall.specifiers =
      installGroup m pins false ++ installGroup m pins true := by
    unfold installCalls
    cases hruntime : installGroup m pins false <;> cases hdev : installGroup m pins true <;> simp
  rw [hcalls, installGroup, installGroup, ← List.map_append]
  apply List.Perm.map
  have hdev : (fun p : Pin => m.isDevOnly p.package == true) =
      fun p => !(m.isDevOnly p.package == false) := by
    funext p
    cases m.isDevOnly p.package with
    | false => rfl
    | true => rfl
  rw [hdev]
  exact List.filter_append_perm _ pins

/-- Calls that install pins, each once, by where a manifest has their packages. -/
structure Grouped (m : Manifest) (pins : List Pin) (silent : Bool)
    (calls : List InstallCall) : Prop where
  atMostTwo : calls.length ≤ 2
  runtimeFirst : calls.Pairwise fun a b => a.dev = false ∧ b.dev = true
  nonempty : ∀ call ∈ calls, call.specifiers ≠ []
  silent : ∀ call ∈ calls, call.silent = silent
  inOrder : ∀ call ∈ calls, call.specifiers.Sublist (pins.map Pin.specifier)
  distinct : (pins.map Pin.specifier).Nodup
  together : (calls.flatMap InstallCall.specifiers).Perm (pins.map Pin.specifier)
  exactlyOne : ∀ p ∈ pins, ∃! call, call ∈ calls ∧ p.specifier ∈ call.specifiers
  dev_iff : ∀ p ∈ pins, ∀ call ∈ calls, p.specifier ∈ call.specifiers →
    (call.dev = true ↔
      m.HasKeyIn Manifest.devSection p.package ∧
        ¬ m.HasKeyIn Manifest.runtimeSection p.package)

/-- The calls for pins with different specifiers divide them. -/
theorem grouped_installCalls (m : Manifest) (silent : Bool)
    (hnodup : (pins.map Pin.specifier).Nodup) :
    Grouped m pins silent (installCalls m pins silent) where
  atMostTwo := List.length_filter_le _ _
  runtimeFirst := by
    apply List.Pairwise.filter
    simp
  nonempty call hcall := (mem_installCalls.mp hcall).2
  silent call hcall := by rw [(mem_installCalls.mp hcall).1]
  inOrder call hcall := by
    rw [(mem_installCalls.mp hcall).1]
    exact List.filter_sublist.map Pin.specifier
  distinct := hnodup
  together := specifiers_installCalls m pins silent
  exactlyOne p hp := by
    -- The group of the package decides the call.
    refine ⟨⟨installGroup m pins (m.isDevOnly p.package), m.isDevOnly p.package, silent⟩, ?_, ?_⟩
    · have hmem := (mem_installGroup (m := m) hnodup hp).mpr rfl
      exact ⟨mem_installCalls.mpr ⟨rfl, List.ne_nil_of_mem hmem⟩, hmem⟩
    · intro call ⟨hcall, hmem⟩
      obtain ⟨heq, -⟩ := mem_installCalls.mp hcall
      rw [heq] at hmem
      rw [heq, (mem_installGroup hnodup hp).mp hmem]
  dev_iff p hp call hcall hmem := by
    rw [(mem_installCalls.mp hcall).1] at hmem
    rw [← (mem_installGroup hnodup hp).mp hmem, Manifest.isDevOnly_iff]

end Division

namespace Completion

variable {x : Context} {token : String} {es : List (Exchange Call.Reply)} {r : Report}

/-- The calls that install packages, as a formula in what was read and what was pinned. -/
theorem calls_eq (c : Completion x token es r) :
    es.filterMap Exchange.installCall? =
      installCalls c.prepared.manifest (r.pinned.map WrittenPin.pin) (!x.verbose) := by
  rw [c.filterMap_installs fun _ => Exchange.installCall?_eq_none, calls_of_install c.installed,
    installCalls_revised, c.pins_eq]

/-- A completed upgrade installs its pins in the groups of the manifest that it read. -/
theorem grouped (c : Completion x token es r) :
    Grouped c.prepared.manifest (r.pinned.map WrittenPin.pin) (!x.verbose)
      (es.filterMap Exchange.installCall?) := by
  obtain ⟨d⟩ := preparation_of_course c.prepares
  rw [c.calls_eq]
  apply grouped_installCalls
  rw [c.pins_eq]
  exact nodup_specifiers d.packages_sublist

end Completion

/-- Whoever the collaborators are and whatever they answer, the calls of a completed upgrade
that install packages divide its pins, by the manifest that was read. -/
theorem grouped_of_completed {σ : Type} (h : Handler Call.Reply σ) (x : Context)
    (token : String) (s : σ) {r : Report}
    (hrun : ((run x token).run h s).1 = .ok (.completed r)) :
    ∃ m, ((run x token).exchanges h s).filterMap Exchange.read? = [m] ∧
      Grouped m (r.pinned.map WrittenPin.pin) (!x.verbose)
        (((run x token).exchanges h s).filterMap Exchange.installCall?) := by
  obtain ⟨c⟩ := completion_of_run hrun
  exact ⟨_, c.read_eq, c.grouped⟩

/-- React and its types are in different sections, and both installations fail. The second is
made all the same. -/
theorem grouped_many :
    ∃ r : Report,
      ((run isolatedContext "15.1.0").run Rehearsal.handler (isolatedProject manyFailures)).1 =
        .ok (.completed r) ∧
      (∃ m, ((run isolatedContext "15.1.0").exchanges Rehearsal.handler
          (isolatedProject manyFailures)).filterMap Exchange.read? = [m] ∧
        Grouped m (r.pinned.map WrittenPin.pin) (!isolatedContext.verbose)
          (((run isolatedContext "15.1.0").exchanges Rehearsal.handler
            (isolatedProject manyFailures)).filterMap Exchange.installCall?)) ∧
      ((run isolatedContext "15.1.0").exchanges Rehearsal.handler
          (isolatedProject manyFailures)).filterMap Exchange.installCall? =
        [⟨["next@15.1.0", "react@19.0.0", "react-dom@19.0.0"], false, true⟩,
          ⟨["@types/react@19.0.1"], true, true⟩] ∧
      ((run isolatedContext "15.1.0").exchanges Rehearsal.handler
          (isolatedProject manyFailures)).filterMap Exchange.installReply? =
        [.error (.install (.reported "no network")), .error (.install (.reported "no space"))] :=
  ⟨_, isolatedReport_many, grouped_of_completed Rehearsal.handler isolatedContext "15.1.0"
    (isolatedProject manyFailures) isolatedReport_many, by
      simp only [run, prepareNewer, Plan.chosen, Plan.atPositions_eq_keep]
      with_unfolding_all rfl, by
      simp only [run, prepareNewer, Plan.chosen, Plan.atPositions_eq_keep]
      with_unfolding_all rfl⟩

end Upgrade

end FrameworkUpgrade
