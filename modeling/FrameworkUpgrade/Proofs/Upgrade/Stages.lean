import FrameworkUpgrade.Proofs.Upgrade.Selection

/-!
# `FrameworkUpgrade.Proofs.Upgrade.Stages`: an upgrade in stages

A project can go to a version at once, or stop at a version on the way. `HandsOver` holds of the
codemods that some completed upgrade between two versions hands to their runner, when nobody
can be asked. `stages_append` states that the stop makes no difference to them: the segment
of the whole way is the segment of the first stage followed by that of the second, and the
codemods of two upgrades in a row are those of the one that goes all the way.

The two upgrades of a way need not meet the same collaborators, and each may be refused some
of its installations and codemods.
-/

set_option autoImplicit false

namespace FrameworkUpgrade

open Dialogue

namespace Upgrade

/-- Some completed upgrade from one version to another, with a catalog and without a user
who can be asked, hands these codemods to their runner in this order. -/
inductive HandsOver (c : Catalog) (a b : Version) (ids : List String) : Prop where
  | intro {σ : Type} (h : Handler Call.Reply σ) (x : Context) (token : String) (s : σ)
      (r : Report) (catalog : x.catalog = c) (prompts : x.prompts = false)
      (completed : ((run x token).run h s).1 = .ok (.completed r))
      (installed : r.installed = a) (target : r.target = b)
      (handed : ((run x token).exchanges h s).filterMap Exchange.transformed? = ids)

/-- What is handed over is the segment between the two versions. -/
theorem HandsOver.eq_window {c : Catalog} (hc : c.Ordered) {a b : Version} {ids : List String}
    (h : HandsOver c a b ids) : ids = (c.window a b).map Codemod.id := by
  obtain ⟨h, x, token, s, r, rfl, hprompts, hrun, rfl, rfl, rfl⟩ := h
  obtain ⟨completion⟩ := completion_of_run hrun
  have hcodemods := completion.codemods_eq hc
  -- Nobody is asked, so the codemods are all of those between the versions.
  rw [hprompts, Bool.false_and, if_neg Bool.false_ne_true] at hcodemods
  rw [completion.transformed_eq, hcodemods.2, Catalog.window_eq_filter hc]
  rfl

/-- A stop on the way changes nothing: the segments of the two stages make up the segment of
the whole way, no codemod stands in it twice, and upgrades along the stages hand over what
one upgrade along the whole way does. -/
theorem stages_append {entries : List CodemodEntry} {c : Catalog}
    (hcatalog : Catalog.ofEntries entries = .ok c) {a b d : Version} (hab : a ≤ b)
    (hbd : b ≤ d) :
    c.window a d = c.window a b ++ c.window b d ∧
    ((c.window a b ++ c.window b d).map Codemod.id).Nodup ∧
    ∀ first second whole, HandsOver c a b first → HandsOver c b d second → HandsOver c a d whole →
      whole = first ++ second := by
  have hc := Catalog.ordered_of_ofEntries hcatalog
  have happend := Catalog.window_append hc hab hbd
  refine ⟨happend, ?_, ?_⟩
  · have hsublist : (c.window a d).Sublist c.codemods := by
      rw [Catalog.window_eq_filter hc]
      exact List.filter_sublist
    rw [← happend]
    exact hc.ids.sublist (hsublist.map Codemod.id)
  · intro first second whole hfirst hsecond hwhole
    rw [hfirst.eq_window hc, hsecond.eq_window hc, hwhole.eq_window hc, happend,
      List.map_append]

/-! ### A stop at a pre-release -/

/-- The pre-release at which the way is stopped. -/
def stop : Version :=
  { major := 15, minor := 0, patch := 0, pre := ["canary".toList, "153".toList] }

/-- Codemods on both sides of the stop, and one that comes with it. -/
def stagedEntries : List CodemodEntry :=
  [⟨"a", "A", "14.0.0"⟩, ⟨"b", "B", "15.0.0-canary.153"⟩, ⟨"c", "C", "15.0.0-canary.171"⟩,
   ⟨"d", "D", "15.0.0"⟩, ⟨"e", "E", "15.1.0"⟩]

/-- The catalog of these codemods. -/
def stagedCatalog : Catalog :=
  ⟨[⟨"a", "A", released 14 0⟩, ⟨"b", "B", stop⟩,
    ⟨"c", "C", { stop with pre := ["canary".toList, "171".toList] }⟩,
    ⟨"d", "D", released 15 0⟩, ⟨"e", "E", released 15 1⟩]⟩

/-- An upgrade with the catalog, without a user who can be asked. -/
def stagedContext : Context :=
  { catalog := stagedCatalog, directory := "/app", verbose := false, prompts := false }

/-- A project at a version, and a registry with the release of a target. One codemod fails. -/
def stagedProject (installed : Version) (target : String) : Rehearsal :=
  { registry := { releases := [(("next", target),
      { version := some target, peers := some [] })] }
    installed := [("next", .ok installed)]
    manifest := ⟨[]⟩
    failures := { transforms := [("c", .reported "exit 1")] } }

/-- The report of an upgrade of such a project. -/
def stagedReport (installed target : Version) (codemods : List Applied) : Report :=
  { installed, target
    pinned := [⟨⟨"next", target⟩, none⟩]
    turbopack := false
    install := .succeeded
    codemods
    recipes := [] }

/-- What is recorded of the codemod that fails. -/
def stagedFailure : Applied :=
  ⟨"c", .failed (Fault.codemod "c" (.reported "exit 1")).message⟩

/-- The first stage hands over the codemod up to the stop. -/
theorem handsOver_first_stage : HandsOver stagedCatalog (released 14 0) stop ["b"] := by
  refine .intro Rehearsal.handler stagedContext "15.0.0-canary.153"
    (stagedProject (released 14 0) "15.0.0-canary.153")
    (stagedReport (released 14 0) stop [⟨"b", .succeeded⟩]) rfl rfl ?_ rfl rfl ?_
  all_goals with_unfolding_all rfl

/-- The second stage hands over those behind the stop. -/
theorem handsOver_second_stage : HandsOver stagedCatalog stop (released 15 0) ["c", "d"] := by
  refine .intro Rehearsal.handler stagedContext "15.0.0" (stagedProject stop "15.0.0")
    (stagedReport stop (released 15 0) [stagedFailure, ⟨"d", .succeeded⟩]) rfl rfl ?_ rfl rfl ?_
  all_goals with_unfolding_all rfl

/-- The whole way hands over all of them. -/
theorem handsOver_whole_way :
    HandsOver stagedCatalog (released 14 0) (released 15 0) ["b", "c", "d"] := by
  refine .intro Rehearsal.handler stagedContext "15.0.0"
    (stagedProject (released 14 0) "15.0.0")
    (stagedReport (released 14 0) (released 15 0)
      [⟨"b", .succeeded⟩, stagedFailure, ⟨"d", .succeeded⟩]) rfl rfl ?_ rfl rfl ?_
  all_goals with_unfolding_all rfl

/-- The way from 14.0.0 to 15.0.0 stops at the pre-release with which a codemod comes. -/
theorem stages_over_canary :
    Catalog.ofEntries stagedEntries = .ok stagedCatalog ∧ released 14 0 ≤ stop ∧
    stop ≤ released 15 0 ∧
    stagedCatalog.window (released 14 0) (released 15 0) =
      stagedCatalog.window (released 14 0) stop ++ stagedCatalog.window stop (released 15 0) ∧
    HandsOver stagedCatalog (released 14 0) stop ["b"] ∧
    HandsOver stagedCatalog stop (released 15 0) ["c", "d"] ∧
    HandsOver stagedCatalog (released 14 0) (released 15 0) ["b", "c", "d"] ∧
    ["b", "c", "d"] = ["b"] ++ ["c", "d"] := by
  have hcatalog : Catalog.ofEntries stagedEntries = .ok stagedCatalog := rfl
  have hab : released 14 0 ≤ stop := by decide
  have hbd : stop ≤ released 15 0 := by decide
  obtain ⟨happend, _, hhanded⟩ := stages_append hcatalog hab hbd
  exact ⟨hcatalog, hab, hbd, happend, handsOver_first_stage, handsOver_second_stage,
    handsOver_whole_way,
    hhanded _ _ _ handsOver_first_stage handsOver_second_stage handsOver_whole_way⟩

end Upgrade

end FrameworkUpgrade
