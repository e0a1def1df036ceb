import FrameworkUpgrade.Proofs.Upgrade.Parts
import FrameworkUpgrade.Upgrade.Rehearsal
import Mathlib.Data.List.Flatten
import Mathlib.Data.List.Forall2
import Mathlib.Logic.Function.Basic

/-!
# `FrameworkUpgrade.Proofs.Upgrade.Peers`: what an upgrade pins

A completed upgrade pins the framework, React with `react-dom`, and the types of both. Which
of them depends on the target and on the manifest alone: `PinnedTo` gives the list as a
formula in the two, with the versions as a function of the packages. `pinned_of_completed`
states that the report of every completed upgrade is of this form. The release that the
upgrade was told of is the target, and each version is what a search for it has found, so an
upgrade in which one of the searches finds nothing is not completed.

A search is a course of `Resolve.highest`. `Resolves` says that one lies in some exchanges.
-/

set_option autoImplicit false

namespace FrameworkUpgrade

open Dialogue

namespace Resolve

/-- A search for the version that a query selects lies in exchanges, and finds a version. -/
def Resolves (es : List (Exchange Call.Reply)) (package query : String) (v : Version) : Prop :=
  ∃ part, part <:+: es ∧ (highest package query).Course part (.ok v)

/-- What is resolved in a part of an upgrade is resolved in the upgrade. -/
theorem Resolves.mono {es es' : List (Exchange Call.Reply)} (h : es <:+: es')
    {package query : String} {v : Version} (hv : Resolves es package query v) :
    Resolves es' package query v := by
  obtain ⟨part, hpart, hcourse⟩ := hv
  exact ⟨part, hpart.trans h, hcourse⟩

/-- The pin of a peer is for its package, at the version that the search has found. -/
theorem course_peer_ok {w : Wanted} {es : List (Exchange Call.Reply)} {p : Pin}
    (h : (peer w).Course es (.ok p)) :
    p.package = w.package ∧ (highest w.package w.query).Course es (.ok p.version) := by
  obtain ⟨v, front, back, rfl, hhighest, hpin⟩ := (course_bind_ok _ _ _ _).mp h
  obtain ⟨rfl, ⟨⟩⟩ := (course_pure _ _ _).mp hpin
  rw [List.append_nil]
  exact ⟨rfl, (course_mapFault_ok _ _ _ _).mp hhighest⟩

/-- Wanted packages are resolved one by one, and the pins are in their order. -/
theorem course_peers_ok {ws : List Wanted} {es : List (Exchange Call.Reply)} {ps : List Pin}
    (h : (peers ws).Course es (.ok ps)) :
    List.Forall₂ (fun w p => p.package = w.package ∧
      Resolves es w.package w.query p.version) ws ps := by
  induction ws generalizing es ps with
  | nil =>
    obtain ⟨_, ⟨⟩⟩ := (course_done _ _ _).mp h
    exact .nil
  | cons w ws ih =>
    obtain ⟨p, front, _, rfl, hpeer, h₁⟩ := (course_bind_ok _ _ _ _).mp h
    obtain ⟨rest, back, _, rfl, hpeers, h₂⟩ := (course_bind_ok _ _ _ _).mp h₁
    obtain ⟨rfl, ⟨⟩⟩ := (course_pure _ _ _).mp h₂
    rw [List.append_nil]
    obtain ⟨hpackage, hhighest⟩ := course_peer_ok hpeer
    refine .cons ⟨hpackage, front, (List.prefix_append front back).isInfix, hhighest⟩ ?_
    -- What the others have asked stands behind what the first has.
    refine (ih hpeers).imp fun w p hp => ⟨hp.1, hp.2.mono ?_⟩
    exact (List.suffix_append front back).isInfix

end Resolve

namespace Upgrade

/-! ### The packages of the pins -/

/-- The packages that an upgrade pins at most, in order. -/
def pinnable : List String :=
  [frameworkPackage, reactPackage, reactDomPackage, reactTypes, reactDomTypes]

/-- What is wanted from a table is the package that was looked up. -/
theorem package_wantedFrom (t : Table) (package : String) {w : Wanted}
    (h : wantedFrom t package = some w) : w.package = package := by
  obtain ⟨query, _, rfl⟩ := Option.map_eq_some_iff.mp h
  rfl

/-- What a table wants of some packages is in their order. -/
theorem packages_filterMap_wantedFrom (t : Table) (packages : List String) :
    ((packages.filterMap (wantedFrom t)).map Wanted.package).Sublist packages := by
  induction packages with
  | nil => exact .slnil
  | cons package packages ih =>
    cases hw : wantedFrom t package with
    | none =>
      rw [List.filterMap_cons_none hw]
      exact ih.cons package
    | some w =>
      rw [List.filterMap_cons_some hw, List.map_cons, package_wantedFrom t package hw]
      exact ih.cons_cons package

/-- Three packages may be wanted, each of them once and in this order. -/
theorem packages_wantedPeers (target : Target) (m : Manifest) :
    ((wantedPeers target m).map Wanted.package).Sublist
      [reactPackage, reactTypes, reactDomTypes] := by
  have hreact : ((wantedFrom target.peers reactPackage).toList.map Wanted.package).Sublist
      [reactPackage] := by
    cases hw : wantedFrom target.peers reactPackage with
    | none => exact List.nil_sublist _
    | some w =>
      rw [Option.toList_some, List.map_singleton, List.singleton_sublist,
        package_wantedFrom _ _ hw]
      exact List.mem_cons_self
  rw [wantedPeers, List.map_append]
  exact hreact.append ((packages_filterMap_wantedFrom _ _).trans List.filter_sublist)

/-- The pins of wanted packages are for these packages, in the same order. -/
theorem packages_peers {ws : List Wanted} {es : List (Exchange Call.Reply)} {ps : List Pin}
    (h : (Resolve.peers ws).Course es (.ok ps)) :
    ps.map Pin.package = ws.map Wanted.package := by
  have hpeers := Resolve.course_peers_ok h
  clear h
  induction hpeers with
  | nil => rfl
  | cons hp _ ih => rw [List.map_cons, List.map_cons, hp.1, ih]

/-- Behind the pin of React comes one of `react-dom`, and the others stay. -/
theorem packages_withReactDom (ps : List Pin) :
    (withReactDom ps).map Pin.package = (ps.map Pin.package).flatMap fun package =>
      if package = reactPackage then [package, reactDomPackage] else [package] := by
  rw [withReactDom, List.map_flatMap, List.flatMap_map]
  congr 1
  funext p
  split <;> rfl

/-- The packages that are pinned are in the order of `pinnable`, and each is pinned once. -/
theorem Preparation.packages_sublist {x : Context} {target : Target} {installed : Version}
    {applicable : List Codemod} {es : List (Exchange Call.Reply)} {p : Prepared}
    (d : Preparation x target installed applicable es p) :
    (p.pins.map Pin.package).Sublist pinnable := by
  have hpeers : (d.peers.map Pin.package).Sublist [reactPackage, reactTypes, reactDomTypes] := by
    rw [packages_peers d.resolved]
    exact packages_wantedPeers _ _
  rw [d.pins_eq, List.map_cons, packages_withReactDom]
  exact (hpeers.flatMap _).cons_cons frameworkPackage

/-- An upgrade is prepared with one pin for a package at most. -/
theorem Preparation.nodup_packages {x : Context} {target : Target} {installed : Version}
    {applicable : List Codemod} {es : List (Exchange Call.Reply)} {p : Prepared}
    (d : Preparation x target installed applicable es p) : (p.pins.map Pin.package).Nodup :=
  List.Nodup.sublist d.packages_sublist (by decide)

/-! ### The pins as a formula -/

/-- React and `react-dom` at one version, when the target wants React of its users. -/
def reactPins (target : Target) (v : Version) : List Pin :=
  if (target.peers.find? reactPackage).isSome then
    [⟨reactPackage, v⟩, ⟨reactDomPackage, v⟩]
  else []

/-- The packages of types that the manifest declares and the target is made with. -/
def pinnedTypes (target : Target) (m : Manifest) : List String :=
  [reactTypes, reactDomTypes].filter fun package =>
    m.declares package && (target.dev.find? package).isSome

/-- Pins for a target and a manifest, at versions that are found in exchanges. -/
structure PinnedTo (target : Target) (m : Manifest) (es : List (Exchange Call.Reply))
    (pins : List Pin) (version : String → Version) : Prop where
  pins_eq : pins = ⟨frameworkPackage, target.version⟩ ::
    (reactPins target (version reactPackage) ++
      (pinnedTypes target m).map fun package => ⟨package, version package⟩)
  distinct : (pins.map Pin.package).Nodup
  react : ∀ query, target.peers.find? reactPackage = some query →
    Resolve.Resolves es reactPackage query (version reactPackage)
  types : ∀ package ∈ pinnedTypes target m, ∀ query,
    target.dev.find? package = some query →
      Resolve.Resolves es package query (version package)

/-- Pins that are resolved in a part of an upgrade are so in the upgrade. -/
theorem PinnedTo.mono {target : Target} {m : Manifest} {es es' : List (Exchange Call.Reply)}
    (h : es <:+: es') {pins : List Pin} {version : String → Version}
    (hp : PinnedTo target m es pins version) : PinnedTo target m es' pins version where
  pins_eq := hp.pins_eq
  distinct := hp.distinct
  react query hquery := (hp.react query hquery).mono h
  types package hpackage query hquery := (hp.types package hpackage query hquery).mono h

/-- Pins that belong to wanted packages one by one are given by a version for each package,
when the packages are distinct. -/
theorem exists_versions {P : Wanted → Version → Prop} {ws : List Wanted} {ps : List Pin}
    (h : List.Forall₂ (fun w p => p.package = w.package ∧ P w p.version) ws ps)
    (hnodup : (ws.map Wanted.package).Nodup) :
    ∃ version : String → Version,
      ps = ws.map (fun w => ⟨w.package, version w.package⟩) ∧
      ∀ w ∈ ws, P w (version w.package) := by
  induction h with
  | nil => exact ⟨fun _ => default, rfl, by simp⟩
  | @cons w p ws ps hp _ ih =>
    obtain ⟨hfresh, hnodup⟩ := List.nodup_cons.mp hnodup
    obtain ⟨version, rfl, hversion⟩ := ih hnodup
    have hne : ∀ w' ∈ ws, w'.package ≠ w.package :=
      fun w' hw' heq => hfresh (heq ▸ List.mem_map_of_mem hw')
    -- The version of the first package is put before those of the others.
    refine ⟨Function.update version w.package p.version, ?_, ?_⟩
    · rw [List.map_cons, Function.update_self, ← hp.1]
      congr 1
      refine List.map_congr_left fun w' hw' => ?_
      rw [hp.1, Function.update_of_ne (hne w' hw')]
    · intro w' hw'
      rcases List.mem_cons.mp hw' with rfl | hw'
      · rw [Function.update_self]
        exact hp.2
      · rw [Function.update_of_ne (hne w' hw')]
        exact hversion w' hw'

/-- What a table wants of some packages are those of them that it has. -/
theorem map_filterMap_wantedFrom {α : Type} (t : Table) (packages : List String)
    (f : String → α) :
    (packages.filterMap (wantedFrom t)).map (fun w => f w.package) =
      (packages.filter fun package => (t.find? package).isSome).map f := by
  induction packages with
  | nil => rfl
  | cons package packages ih =>
    cases hquery : t.find? package with
    | none =>
      have hw : wantedFrom t package = none := by rw [wantedFrom, hquery]; rfl
      rw [List.filterMap_cons_none hw, ih, List.filter_cons_of_neg (by simp [hquery])]
    | some query =>
      have hw : wantedFrom t package = some ⟨package, query⟩ := by rw [wantedFrom, hquery]; rfl
      rw [List.filterMap_cons_some hw, List.map_cons, ih,
        List.filter_cons_of_pos (by simp [hquery]), List.map_cons]

/-- Pins without React get no `react-dom`. -/
theorem withReactDom_of_not_mem {ps : List Pin} (h : reactPackage ∉ ps.map Pin.package) :
    withReactDom ps = ps := by
  induction ps with
  | nil => rfl
  | cons p ps ih =>
    rw [List.map_cons, List.mem_cons, not_or] at h
    rw [withReactDom, List.flatMap_cons, if_neg (Ne.symm h.1)]
    exact congrArg (p :: ·) (ih h.2)

/-- The pins of the wanted packages, with `react-dom` put in. -/
theorem withReactDom_wantedPeers (target : Target) (m : Manifest)
    (version : String → Version) :
    withReactDom ((wantedPeers target m).map fun w => ⟨w.package, version w.package⟩) =
      reactPins target (version reactPackage) ++
        (pinnedTypes target m).map fun package => ⟨package, version package⟩ := by
  have htypes : (([reactTypes, reactDomTypes].filter (m.declares ·)).filterMap
      (wantedFrom target.dev)).map (fun w => (⟨w.package, version w.package⟩ : Pin)) =
      (pinnedTypes target m).map fun package => ⟨package, version package⟩ := by
    rw [map_filterMap_wantedFrom target.dev _ fun package => (⟨package, version package⟩ : Pin),
      List.filter_filter, pinnedTypes]
    simp only [Bool.and_comm]
  -- Among the types there is no pin that another would have to follow.
  have hreactless : reactPackage ∉ (((pinnedTypes target m).map fun package =>
      (⟨package, version package⟩ : Pin)).map Pin.package) := by
    rw [List.map_map]
    intro hmem
    obtain ⟨package, hpackage, rfl⟩ := List.mem_map.mp hmem
    have := List.mem_of_mem_filter hpackage
    revert this
    decide
  rw [wantedPeers, List.map_append, htypes, withReactDom, List.flatMap_append,
    ← withReactDom, ← withReactDom, withReactDom_of_not_mem hreactless, reactPins]
  congr 1
  cases hquery : target.peers.find? reactPackage with
  | none => rw [wantedFrom, hquery]; rfl
  | some query => rw [wantedFrom, hquery]; rfl

/-- The searches are the second part of what is asked while an upgrade is prepared. -/
theorem Preparation.pinning_infix {x : Context} {target : Target} {installed : Version}
    {applicable : List Codemod} {es : List (Exchange Call.Reply)} {p : Prepared}
    (d : Preparation x target installed applicable es p) : d.pinning <:+: es := by
  refine ⟨[⟨.readManifest, .ok p.manifest⟩], d.choosing ++ d.asking, ?_⟩
  refine Eq.trans ?_ d.exchanges.symm
  rw [List.append_assoc, List.singleton_append]

/-- The exchanges of the preparation stand together in those of the upgrade. -/
theorem Completion.preparing_infix {x : Context} {token : String}
    {es : List (Exchange Call.Reply)} {r : Report} (c : Completion x token es r) :
    c.preparing <:+: es := by
  refine ⟨c.resolving ++ [⟨.installed frameworkPackage, .ok r.installed⟩],
    ⟨.writeManifest (revised c.prepared).1, .ok ()⟩ :: c.after, ?_⟩
  refine Eq.trans ?_ c.exchanges.symm
  rw [List.append_assoc, List.append_assoc, List.singleton_append]
  rfl

/-- What was prepared for a target is pinned to it. -/
theorem Preparation.pinnedTo {x : Context} {target : Target} {installed : Version}
    {applicable : List Codemod} {es : List (Exchange Call.Reply)} {p : Prepared}
    (d : Preparation x target installed applicable es p) :
    ∃ version, PinnedTo target p.manifest es p.pins version := by
  have hwanted : ((wantedPeers target p.manifest).map Wanted.package).Nodup :=
    List.Nodup.sublist (packages_wantedPeers _ _) (by decide)
  obtain ⟨version, hpeers, hversion⟩ :=
    exists_versions (Resolve.course_peers_ok d.resolved) hwanted
  -- The versions are those that the searches have found, one for every wanted package.
  refine ⟨version, ?_, d.nodup_packages, ?_, ?_⟩
  · rw [d.pins_eq, hpeers, withReactDom_wantedPeers]
  · intro query hquery
    have hmem : (⟨reactPackage, query⟩ : Wanted) ∈ wantedPeers target p.manifest := by
      rw [wantedPeers, wantedFrom, hquery]
      exact List.mem_append_left _ List.mem_cons_self
    exact (hversion _ hmem).mono d.pinning_infix
  · intro package hpackage query hquery
    obtain ⟨hmem, hboth⟩ := List.mem_filter.mp hpackage
    have hmem : (⟨package, query⟩ : Wanted) ∈ wantedPeers target p.manifest := by
      refine List.mem_append_right _ (List.mem_filterMap.mpr ⟨package, ?_, ?_⟩)
      · exact List.mem_filter.mpr ⟨hmem, (Bool.and_eq_true_iff.mp hboth).1⟩
      · rw [wantedFrom, hquery]
        rfl
    exact (hversion _ hmem).mono d.pinning_infix

/-- Whoever the collaborators are and whatever they answer, the pins of a completed upgrade
are those of `PinnedTo`, for the manifest that was read and the release that was found. -/
theorem pinned_of_completed {σ : Type} (h : Handler Call.Reply σ) (x : Context)
    (token : String) (s : σ) {r : Report}
    (hrun : ((run x token).run h s).1 = .ok (.completed r)) :
    ∃ m release target version,
      ((run x token).exchanges h s).filterMap Exchange.read? = [m] ∧
      ((run x token).exchanges h s).filterMap Exchange.released? = [release] ∧
      release.target? = .ok target ∧ r.target = target.version ∧
      PinnedTo target m ((run x token).exchanges h s) (r.pinned.map WrittenPin.pin)
        version := by
  obtain ⟨c⟩ := completion_of_run hrun
  obtain ⟨d⟩ := preparation_of_course c.prepares
  obtain ⟨release, hreleased, htarget⟩ := c.released_eq
  obtain ⟨version, hpinned⟩ := d.pinnedTo
  refine ⟨_, release, c.target, version, c.read_eq, hreleased, htarget, c.target_eq, ?_⟩
  rw [c.pins_eq]
  exact hpinned.mono c.preparing_infix

/-! ### Types that are declared by no text -/

/-- A manifest that declares the types of React, and holds a number for those of React for
browsers. -/
def typedManifest : Manifest :=
  ⟨[("dependencies",
      .object [("react", .text "^18.2.0"), ("@types/react-dom", .number (.int 18))]),
    ("devDependencies", .object [("@types/react", .text "^18.2.0")])]⟩

/-- A project at 14.0.0 with the manifest, and a target that wants React by a range and both
types. -/
def typedProject : Rehearsal :=
  { registry := {
      releases := [(("next", "15.1.0"),
        { version := some "15.1.0", peers := some [("react", "^18.2.0 || ^19.0.0")],
          dev := [("@types/react", "19.0.1"), ("@types/react-dom", "19.0.0")] })]
      packages := [("react", { versions := ["18.3.1", "19.0.0"] }),
        ("@types/react", { versions := ["18.2.0", "19.0.1"] })] }
    installed := [("next", .ok { major := 14, minor := 0, patch := 0 })]
    manifest := typedManifest }

/-- An upgrade without codemods and without a user who can be asked. -/
def typedContext : Context :=
  { catalog := ⟨[]⟩, directory := "/app", verbose := true, prompts := false }

/-- The report of the upgrade. -/
def typedReport : Report :=
  { installed := { major := 14, minor := 0, patch := 0 }
    target := { major := 15, minor := 1, patch := 0 }
    pinned := [⟨⟨"next", { major := 15, minor := 1, patch := 0 }⟩, none⟩,
               ⟨⟨"react", { major := 19, minor := 0, patch := 0 }⟩, some "^18.2.0"⟩,
               ⟨⟨"react-dom", { major := 19, minor := 0, patch := 0 }⟩, none⟩,
               ⟨⟨"@types/react", { major := 19, minor := 0, patch := 1 }⟩, some "^18.2.0"⟩]
    turbopack := false
    install := .succeeded
    codemods := []
    recipes := [] }

/-- The rehearsal with types that no text declares comes to this report. -/
theorem typedReport_eq :
    ((run typedContext "15.1.0").run Rehearsal.handler typedProject).1 =
      .ok (.completed typedReport) := by
  with_unfolding_all rfl

/-- The number keeps the types of React for browsers from being pinned. -/
theorem pinned_typed :
    (∃ m release target version,
      ((run typedContext "15.1.0").exchanges Rehearsal.handler typedProject).filterMap
        Exchange.read? = [m] ∧
      ((run typedContext "15.1.0").exchanges Rehearsal.handler typedProject).filterMap
        Exchange.released? = [release] ∧
      release.target? = .ok target ∧ typedReport.target = target.version ∧
      PinnedTo target m
        ((run typedContext "15.1.0").exchanges Rehearsal.handler typedProject)
        (typedReport.pinned.map WrittenPin.pin) version) ∧
    typedReport.pinned.map (fun w => w.pin.package) =
      ["next", "react", "react-dom", "@types/react"] :=
  ⟨pinned_of_completed Rehearsal.handler typedContext "15.1.0" typedProject typedReport_eq, rfl⟩

end Upgrade

end FrameworkUpgrade
