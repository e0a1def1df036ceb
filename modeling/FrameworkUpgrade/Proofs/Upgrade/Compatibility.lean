import FrameworkUpgrade.Proofs.Upgrade.Peers
import FrameworkUpgrade.Proofs.Upgrade.Search
import FrameworkUpgrade.Proofs.Version.Canonical

/-!
# `FrameworkUpgrade.Proofs.Upgrade.Compatibility`: a pinned peer is what its query selects

The target declares a query for each of its peers. `Query.Selects` says which versions a query
lets be pinned, given what the registry has published of the package: one of the published
versions that the query holds of, and for a dist-tag the version that stands under it.

In a completed upgrade each peer is pinned at a version that its own query selects
(`selects_of_completed`). The one exception is `react-dom`. It is pinned exactly when React is, at
the same version, and neither its query nor what is published of it is looked at:
`unlike_reactDom` has the two declared apart.
-/

set_option autoImplicit false

namespace FrameworkUpgrade

open Dialogue

/-! ### What a query selects -/

/-- A query lets a version be pinned, given what is published of a package. -/
def Query.Selects (q : Query) (published : Published) (v : Version) : Prop :=
  match q with
  | .tag name => Table.find? name published.tags = some v.text
  | q => q.holds v = true ∧ v.text ∈ published.versions

/-- What a query picks of the published versions it selects. -/
theorem Query.Picks.selects {q : Query} {published : Published} {v : Version}
    (h : q.Picks published v) : q.Selects published v := by
  cases q with
  | tag name =>
    obtain ⟨s, hs, hv⟩ := h
    have htext : v.text = s := (Version.text_of_read? hv).1
    rw [Selects, htext]
    exact hs
  | exact w => exact ⟨h.1.holds, h.1.mem_text⟩
  | range r => exact ⟨h.1.holds, h.1.mem_text⟩

/-- What a search finds is selected by its query from the answer of the registry. -/
theorem Resolve.Resolves.selects {es : List (Exchange Call.Reply)} {package query : String}
    {v : Version} (h : Resolves es package query v) :
    ∃ q published, Query.parse? query = some q ∧
      (⟨.published package, .ok (some published)⟩ : Exchange Call.Reply) ∈ es ∧
      q.Selects published v := by
  obtain ⟨part, hpart, hcourse⟩ := h
  obtain ⟨q, published, hquery, rfl, hpicks⟩ := course_highest_ok hcourse
  exact ⟨q, published, hquery, hpart.subset List.mem_cons_self, hpicks.selects⟩

/-! ### The queries of a target -/

/-- The query that a target declares for a peer: for React and `react-dom` the one for its
users, and for the types the one that it is made with. -/
def Target.query? (target : Target) (package : String) : Option String :=
  if package = reactPackage ∨ package = reactDomPackage then target.peers.find? package
  else if package = reactTypes ∨ package = reactDomTypes then target.dev.find? package
  else none

namespace Upgrade

/-- A pinned peer agrees with its target: it is selected by the query that the target declares
for it, or it is `react-dom` and goes with React. -/
def Agrees (target : Target) (es : List (Exchange Call.Reply)) (pins : List Pin) (p : Pin) :
    Prop :=
  if p.package = reactDomPackage then ⟨reactPackage, p.version⟩ ∈ pins
  else ∃ query q published, target.query? p.package = some query ∧
    Query.parse? query = some q ∧
    (⟨.published p.package, .ok (some published)⟩ : Exchange Call.Reply) ∈ es ∧
    q.Selects published p.version

/-- A pin of a package that is not the framework is the one that the query of the target selects,
and `react-dom` follows React. -/
theorem PinnedTo.agrees {target : Target} {m : Manifest} {es : List (Exchange Call.Reply)}
    {pins : List Pin} {version : String → Version} (h : PinnedTo target m es pins version)
    {p : Pin} (hp : p ∈ pins) (hpeer : p.package ≠ frameworkPackage) :
    Agrees target es pins p := by
  have hmem := hp
  rw [h.pins_eq, List.mem_cons, List.mem_append] at hmem
  rcases hmem with rfl | hreact | htypes
  · exact absurd rfl hpeer
  · -- React and `react-dom` are pinned together, or neither of them is.
    unfold reactPins at hreact
    split at hreact
    · rename_i hdeclared
      obtain ⟨query, hquery⟩ := Option.isSome_iff_exists.mp hdeclared
      rcases List.mem_cons.mp hreact with rfl | hdom
      · rw [Agrees, if_neg (show reactPackage ≠ reactDomPackage by decide)]
        obtain ⟨q, published, hparse, hasked, hselects⟩ := (h.react query hquery).selects
        refine ⟨query, q, published, ?_, hparse, hasked, hselects⟩
        rw [Target.query?, if_pos (.inl rfl)]
        exact hquery
      · rw [List.mem_singleton.mp hdom, Agrees, if_pos rfl, h.pins_eq, reactPins,
          if_pos hdeclared]
        exact List.mem_cons_of_mem _ List.mem_cons_self
    · cases hreact
  · obtain ⟨package, hpackage, rfl⟩ := List.mem_map.mp htypes
    obtain ⟨hname, hboth⟩ := List.mem_filter.mp hpackage
    obtain ⟨query, hquery⟩ :=
      Option.isSome_iff_exists.mp (Bool.and_eq_true_iff.mp hboth).2
    have hnames : package = reactTypes ∨ package = reactDomTypes := by simpa using hname
    have hreactless : package ≠ reactPackage ∧ package ≠ reactDomPackage := by
      rcases hnames with rfl | rfl <;> decide
    rw [Agrees, if_neg hreactless.2]
    obtain ⟨q, published, hparse, hasked, hselects⟩ :=
      (h.types package hpackage query hquery).selects
    refine ⟨query, q, published, ?_, hparse, hasked, hselects⟩
    rw [Target.query?, if_neg (not_or.mpr hreactless), if_pos hnames]
    exact hquery

/-- A pin of the types is no pin of React or of `react-dom`. -/
theorem not_mem_pinnedTypes {target : Target} {m : Manifest} {package : String}
    (h : package = reactPackage ∨ package = reactDomPackage) : package ∉ pinnedTypes target m := by
  intro hmem
  have hname : package ∈ [reactTypes, reactDomTypes] := (List.mem_filter.mp hmem).1
  rcases h with rfl | rfl <;> exact absurd hname (by decide)

/-- React and `react-dom` are pinned together, at one version. -/
theorem PinnedTo.reactDom_iff {target : Target} {m : Manifest} {es : List (Exchange Call.Reply)}
    {pins : List Pin} {version : String → Version} (h : PinnedTo target m es pins version)
    (v : Version) :
    (⟨reactDomPackage, v⟩ : Pin) ∈ pins ↔ (⟨reactPackage, v⟩ : Pin) ∈ pins := by
  -- Among the pins, only those of `reactPins` are of React or of `react-dom`.
  have hreactPins {package : String} (hname : package = reactPackage ∨ package = reactDomPackage) :
      (⟨package, v⟩ : Pin) ∈ pins ↔
        (⟨package, v⟩ : Pin) ∈ reactPins target (version reactPackage) := by
    have hframework : package ≠ frameworkPackage := by
      rcases hname with rfl | rfl <;> decide
    have htypes : package ∉ pinnedTypes target m := not_mem_pinnedTypes hname
    rw [h.pins_eq, List.mem_cons, List.mem_append, List.mem_map]
    constructor
    · rintro (heq | hreact | ⟨other, hother, heq⟩)
      · exact absurd (congrArg Pin.package heq) hframework
      · exact hreact
      · obtain rfl : other = package := congrArg Pin.package heq
        exact absurd hother htypes
    · exact fun hreact => .inr (.inl hreact)
  rw [hreactPins (.inr rfl), hreactPins (.inl rfl), reactPins]
  split
  · simp [reactPackage, reactDomPackage]
  · simp

/-- Whoever the collaborators are and whatever they answer, each peer that a completed upgrade
pins agrees with the release that the upgrade was told of, and `react-dom` is pinned exactly when
React is, at the same version. -/
theorem selects_of_completed {σ : Type} (h : Handler Call.Reply σ) (x : Context)
    (token : String) (s : σ) {r : Report}
    (hrun : ((run x token).run h s).1 = .ok (.completed r)) :
    ∃ release target,
      ((run x token).exchanges h s).filterMap Exchange.released? = [release] ∧
      release.target? = .ok target ∧ r.target = target.version ∧
      (∀ w ∈ r.pinned, w.pin.package ≠ frameworkPackage →
        Agrees target ((run x token).exchanges h s) (r.pinned.map WrittenPin.pin) w.pin) ∧
      ∀ v, (⟨reactDomPackage, v⟩ : Pin) ∈ r.pinned.map WrittenPin.pin ↔
        (⟨reactPackage, v⟩ : Pin) ∈ r.pinned.map WrittenPin.pin := by
  obtain ⟨c⟩ := completion_of_run hrun
  obtain ⟨d⟩ := preparation_of_course c.prepares
  obtain ⟨release, hreleased, htarget⟩ := c.released_eq
  obtain ⟨version, hpinned⟩ := d.pinnedTo
  -- Both parts are about the pins of the preparation, which the report lists.
  refine ⟨release, c.target, hreleased, htarget, c.target_eq, fun w hw hpeer => ?_, fun v => ?_⟩
  · have hmem : w.pin ∈ c.prepared.pins := c.pins_eq ▸ List.mem_map_of_mem hw
    rw [c.pins_eq]
    exact (hpinned.mono c.preparing_infix).agrees hmem hpeer
  · rw [c.pins_eq]
    exact hpinned.reactDom_iff v

/-! ### Peers that are declared apart -/

/-- A project at 14.0.0 that has both types, and a target with a query for each peer that is
unlike the others. What stands under the dist-tag `next` is not published. -/
def apartProject : Rehearsal :=
  { registry := {
      releases := [(("next", "15.1.0"),
        { version := some "15.1.0"
          peers := some [("react", "^19.0.0"), ("react-dom", "^18.2.0")]
          dev := [("@types/react", "next"), ("@types/react-dom", "18.3.0")] })]
      packages := [("react", { versions := ["18.3.1", "19.0.0"] }),
        ("react-dom", { versions := ["18.2.0", "18.3.1"] }),
        ("@types/react", { tags := [("next", "19.0.1")], versions := ["18.2.0"] }),
        ("@types/react-dom", { versions := ["18.3.0", "19.0.0"] })] }
    installed := [("next", .ok { major := 14, minor := 0, patch := 0 })]
    manifest := ⟨[("devDependencies",
      .object [("@types/react", .text "^18.2.0"), ("@types/react-dom", .text "^18.2.0")])]⟩ }

/-- The target of the release. -/
def apartTarget : Target :=
  { version := { major := 15, minor := 1, patch := 0 }
    peers := [("react", "^19.0.0"), ("react-dom", "^18.2.0")]
    dev := [("@types/react", "next"), ("@types/react-dom", "18.3.0")] }

/-- An upgrade without codemods and without a user who can be asked. -/
def apartContext : Context :=
  { catalog := ⟨[]⟩, directory := "/app", verbose := false, prompts := false }

/-- The report of the upgrade. -/
def apartReport : Report :=
  { installed := { major := 14, minor := 0, patch := 0 }
    target := { major := 15, minor := 1, patch := 0 }
    pinned := [⟨⟨"next", { major := 15, minor := 1, patch := 0 }⟩, none⟩,
               ⟨⟨"react", { major := 19, minor := 0, patch := 0 }⟩, none⟩,
               ⟨⟨"react-dom", { major := 19, minor := 0, patch := 0 }⟩, none⟩,
               ⟨⟨"@types/react", { major := 19, minor := 0, patch := 1 }⟩, some "^18.2.0"⟩,
               ⟨⟨"@types/react-dom", { major := 18, minor := 3, patch := 0 }⟩, some "^18.2.0"⟩]
    turbopack := false
    install := .succeeded
    codemods := []
    recipes := [] }

/-- The rehearsal of a target with two queries comes to this report. -/
theorem apartReport_eq :
    ((run apartContext "15.1.0").run Rehearsal.handler apartProject).1 =
      .ok (.completed apartReport) := by
  with_unfolding_all rfl

/-- The query for React selects from a range, and that for one of the types by a dist-tag. -/
theorem selects_apart :
    (∃ release target,
      ((run apartContext "15.1.0").exchanges Rehearsal.handler apartProject).filterMap
        Exchange.released? = [release] ∧
      release.target? = .ok target ∧ apartReport.target = target.version ∧
      (∀ w ∈ apartReport.pinned, w.pin.package ≠ frameworkPackage →
        Agrees target ((run apartContext "15.1.0").exchanges Rehearsal.handler apartProject)
          (apartReport.pinned.map WrittenPin.pin) w.pin) ∧
      ∀ v, (⟨reactDomPackage, v⟩ : Pin) ∈ apartReport.pinned.map WrittenPin.pin ↔
        (⟨reactPackage, v⟩ : Pin) ∈ apartReport.pinned.map WrittenPin.pin) ∧
    apartReport.pinned.map (fun w => w.pin.package) =
      ["next", "react", "react-dom", "@types/react", "@types/react-dom"] :=
  ⟨selects_of_completed Rehearsal.handler apartContext "15.1.0" apartProject apartReport_eq, rfl⟩

/-- In the upgrade `react-dom` is pinned at a version that its query does not hold of and that
is not published. The version of the types that stands under the dist-tag is not published
either. -/
theorem unlike_reactDom :
    ((run apartContext "15.1.0").run Rehearsal.handler apartProject).1 =
      .ok (.completed apartReport) ∧
    (∃ release, apartProject.registry.release "next" "15.1.0" = .ok (some release) ∧
      release.target? = .ok apartTarget) ∧
    (∃ w q published, w ∈ apartReport.pinned ∧ w.pin.package = "react-dom" ∧
      apartTarget.query? "react-dom" = some "^18.2.0" ∧ Query.parse? "^18.2.0" = some (.range q) ∧
      apartProject.registry.published "react-dom" = .ok (some published) ∧
      q.holds w.pin.version = false ∧ w.pin.version.text ∉ published.versions) ∧
    ∃ w published, w ∈ apartReport.pinned ∧ w.pin.package = "@types/react" ∧
      apartTarget.query? "@types/react" = some "next" ∧
      apartProject.registry.published "@types/react" = .ok (some published) ∧
      w.pin.version.text ∉ published.versions := by
  refine ⟨apartReport_eq, ⟨_, rfl, by with_unfolding_all rfl⟩, ?_, ?_⟩
  · refine ⟨⟨⟨"react-dom", { major := 19, minor := 0, patch := 0 }⟩, none⟩,
      ⟨"^18.2.0", [[⟨.caret, 18, some 2, some 0, []⟩]]⟩, _, by simp [apartReport], rfl, rfl, ?_,
      rfl, by decide, by decide⟩
    with_unfolding_all rfl
  · exact ⟨⟨⟨"@types/react", { major := 19, minor := 0, patch := 1 }⟩, some "^18.2.0"⟩, _,
      by simp [apartReport], rfl, rfl, rfl, by decide⟩

end Upgrade

end FrameworkUpgrade
