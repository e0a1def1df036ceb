import FrameworkUpgrade.Proofs.Manifest.Pin
import FrameworkUpgrade.Proofs.Upgrade.Peers
import FrameworkUpgrade.Upgrade.Rehearsal

/-!
# `FrameworkUpgrade.Proofs.Upgrade.Pins`: the pins of a completed upgrade

A completed upgrade reports the pins that it has put into the manifest. Their packages are
among five and distinct, so each of them stands in the written manifest as its own pin has
left it. `declares_pinned_iff` states what that is: the written manifest declares a
reported package at its version exactly when the manifest that was read accepts the pin.

The report does not tell the two cases apart. With a manifest whose `dependencies` is
`null` the upgrade reports the framework as pinned and writes the manifest without it.
-/

set_option autoImplicit false

namespace FrameworkUpgrade

open Dialogue

namespace Upgrade

/-! ### Several pins -/

/-- Pins leave what is declared of other packages. -/
theorem declared?_pinAll_of_not_mem {package : String} {ps : List Pin}
    (h : package ∉ ps.map Pin.package) (m : Manifest) :
    (pinAll m ps).1.declared? package = m.declared? package := by
  induction ps generalizing m with
  | nil => rfl
  | cons p ps ih =>
    rw [List.map_cons, List.mem_cons, not_or] at h
    show (pinAll (m.pin p.package p.version.text) ps).1.declared? package = _
    rw [ih h.2, Manifest.declared?_pin_ne h.1]

/-- Of several pins for distinct packages, each is declared when the manifest could take it
at the beginning. -/
theorem declared?_pinAll_of_mem {ps : List Pin} (hnodup : (ps.map Pin.package).Nodup)
    {p : Pin} (hp : p ∈ ps) (m : Manifest) :
    (pinAll m ps).1.declared? p.package =
      if m.acceptsPin p.package then some p.version.text else none := by
  induction ps generalizing m with
  | nil => cases hp
  | cons q ps ih =>
    obtain ⟨hfresh, hnodup⟩ := List.nodup_cons.mp hnodup
    -- A later pin is judged by the manifest at the beginning, since those before it are for
    -- other packages.
    show (pinAll (m.pin q.package q.version.text) ps).1.declared? p.package = _
    rcases List.mem_cons.mp hp with rfl | hp
    · -- No later pin is for the package of the first.
      rw [declared?_pinAll_of_not_mem hfresh, Manifest.declared?_pin_self]
    · have hne : p.package ≠ q.package :=
        fun heq => hfresh (heq ▸ List.mem_map_of_mem hp)
      rw [ih hnodup hp, Manifest.acceptsPin_pin_ne hne]

/-- The flag in the dev script has no bearing on what is declared. -/
theorem declared?_revised (p : Prepared) (package : String) :
    (revised p).1.declared? package = (pinAll p.manifest p.pins).1.declared? package := by
  unfold revised
  cases p.followUps.turbopack with
  | true => exact Manifest.declared?_enableTurbopack _ _
  | false => rfl

/-! ### What is written -/

/-- The manifest written by a completed upgrade declares a pinned package at its version
exactly when the manifest read accepts the pin. -/
theorem Completion.declares_iff {x : Context} {token : String} {es : List (Exchange Call.Reply)}
    {r : Report} (c : Completion x token es r) {w : WrittenPin} (hw : w ∈ r.pinned) :
    (revised c.prepared).1.declared? w.pin.package = some w.pin.version.text ↔
      c.prepared.manifest.acceptsPin w.pin.package = true := by
  obtain ⟨d⟩ := preparation_of_course c.prepares
  have hmem : w.pin ∈ c.prepared.pins := by
    rw [← c.pins_eq]
    exact List.mem_map_of_mem hw
  rw [declared?_revised, declared?_pinAll_of_mem d.nodup_packages hmem]
  split
  · rename_i haccepts
    exact ⟨fun _ => haccepts, fun _ => rfl⟩
  · rename_i hrefuses
    exact ⟨nofun, fun haccepts => absurd haccepts hrefuses⟩

/-- Whoever the collaborators are and whatever they answer, a completed upgrade reads one
manifest and writes one, and the one written declares a reported package at its version
exactly when the one read accepts the pin. -/
theorem declares_pinned_iff {σ : Type} (h : Handler Call.Reply σ) (x : Context)
    (token : String) (s : σ) {r : Report}
    (hrun : ((run x token).run h s).1 = .ok (.completed r)) :
    ∃ m m', ((run x token).exchanges h s).filterMap Exchange.read? = [m] ∧
      ((run x token).exchanges h s).filterMap Exchange.written? = [m'] ∧
      ∀ w ∈ r.pinned, m'.declared? w.pin.package = some w.pin.version.text ↔
        m.acceptsPin w.pin.package = true := by
  obtain ⟨c⟩ := completion_of_run hrun
  exact ⟨_, _, c.read_eq, c.written_eq, fun w hw => c.declares_iff hw⟩

/-! ### A pin that is dropped -/

/-- A text in which the section for running the project is `null`. -/
def nullText : String :=
  "\x7b\"dependencies\":null," ++
    "\"devDependencies\":\x7b\"@types/react\":\"^18.2.0\"\x7d\x7d"

/-- The manifest of the text. -/
def nullManifest : Manifest :=
  ⟨[("dependencies", .null), ("devDependencies", .object [("@types/react", .text "^18.2.0")])]⟩

/-- A project at 14.0.0 with the manifest, and a target that wants one peer. -/
def nullProject : Rehearsal :=
  { registry := {
      releases := [(("next", "15.1.0"),
        { version := some "15.1.0", peers := some [], dev := [("@types/react", "19.0.1")] })]
      packages := [("@types/react", { versions := ["18.2.0", "19.0.1"] })] }
    installed := [("next", .ok { major := 14, minor := 0, patch := 0 })]
    manifest := nullManifest }

/-- An upgrade without codemods and without a user who can be asked. -/
def nullContext : Context :=
  { catalog := ⟨[]⟩, directory := "/app", verbose := false, prompts := false }

/-- The report of the upgrade, with the pins of the framework and of the peer. -/
def nullReport : Report :=
  { installed := { major := 14, minor := 0, patch := 0 }
    target := { major := 15, minor := 1, patch := 0 }
    pinned := [⟨⟨"next", { major := 15, minor := 1, patch := 0 }⟩, none⟩,
               ⟨⟨"@types/react", { major := 19, minor := 0, patch := 1 }⟩, some "^18.2.0"⟩]
    turbopack := false
    install := .succeeded
    codemods := []
    recipes := [] }

/-- The rehearsal with a manifest that cannot take pins comes to this report. -/
theorem nullReport_eq :
    ((run nullContext "15.1.0").run Rehearsal.handler nullProject).1 =
      .ok (.completed nullReport) := by
  with_unfolding_all rfl

/-- The manifest accepts the pin of the peer, and not that of the framework. -/
theorem declares_pinned_null :
    (∃ m m', ((run nullContext "15.1.0").exchanges Rehearsal.handler nullProject).filterMap
        Exchange.read? = [m] ∧
      ((run nullContext "15.1.0").exchanges Rehearsal.handler nullProject).filterMap
        Exchange.written? = [m'] ∧
      ∀ w ∈ nullReport.pinned, m'.declared? w.pin.package = some w.pin.version.text ↔
        m.acceptsPin w.pin.package = true) ∧
    nullReport.pinned.map (fun w => nullManifest.acceptsPin w.pin.package) = [false, true] :=
  ⟨declares_pinned_iff Rehearsal.handler nullContext "15.1.0" nullProject nullReport_eq,
    by decide⟩

/-- The upgrade reports the framework as pinned, and the manifest that it writes does not
declare the framework. -/
theorem drops_pin_null :
    Manifest.read nullText.toList = .ok nullManifest ∧
    ((run nullContext "15.1.0").run Rehearsal.handler nullProject).1 =
      .ok (.completed nullReport) ∧
    ∃ m' w, ((run nullContext "15.1.0").exchanges Rehearsal.handler nullProject).filterMap
        Exchange.written? = [m'] ∧
      w ∈ nullReport.pinned ∧ m'.declared? w.pin.package ≠ some w.pin.version.text := by
  refine ⟨by decide +kernel, nullReport_eq,
    (pinAll nullManifest (nullReport.pinned.map WrittenPin.pin)).1,
    ⟨⟨"next", { major := 15, minor := 1, patch := 0 }⟩, none⟩, ?_, List.mem_cons_self,
    by decide⟩
  with_unfolding_all rfl

end Upgrade

end FrameworkUpgrade
