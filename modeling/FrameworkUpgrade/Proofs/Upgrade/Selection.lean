import FrameworkUpgrade.Proofs.Codemod.Window
import FrameworkUpgrade.Proofs.Upgrade.Parts
import FrameworkUpgrade.Upgrade.Rehearsal
import Mathlib.Data.List.Sort

/-!
# `FrameworkUpgrade.Proofs.Upgrade.Selection`: which codemods an upgrade applies

A user answers the choice of codemods with positions, in any order, with repetitions and
with positions that do not exist. `atPositions_eq_keep` states what becomes of such an
answer: the codemods whose position is in it, each once, in the order of the catalog.

`transforms_of_completed` is the statement for whole upgrades. The identifiers that are
handed to the runner of codemods are those of the segment of the catalog between the
installed version and the target, cut down to the answer where the user was asked. The
replies to installations and codemods do not enter it.
-/

set_option autoImplicit false

namespace FrameworkUpgrade

open Dialogue

/-! ### Positions -/

namespace Plan

/-- The elements whose position is in an answer, in order. -/
def keep {α : Type} (answer : List Nat) (xs : List α) : List α :=
  (xs.zipIdx.filter fun x => x.2 ∈ answer).map Prod.fst

/-- A sorted list without its repetitions is strictly ascending. -/
theorem pairwise_lt_eraseDups : ∀ {xs : List Nat}, xs.Pairwise (· ≤ ·) →
    xs.eraseDups.Pairwise (· < ·)
  | [], _ => by
    rw [List.eraseDups_nil]
    exact .nil
  | x :: xs, h => by
    obtain ⟨hx, hxs⟩ := List.pairwise_cons.mp h
    rw [List.eraseDups_cons, List.pairwise_cons]
    -- What is left after `x` is not below it and is not equal to it.
    constructor
    · intro y hy
      obtain ⟨hmem, hne⟩ := List.mem_filter.mp (List.mem_eraseDups.mp hy)
      have hle := hx y hmem
      have hne : y ≠ x := by simpa using hne
      omega
    · exact pairwise_lt_eraseDups (hxs.sublist List.filter_sublist)
termination_by xs => xs.length
decreasing_by
  have := List.length_filter_le (fun y => !y == x) xs
  simp only [List.length_cons]
  omega

/-- The positions of an answer in ascending order, each with its element. -/
def found {α : Type} (xs : List α) (positions : List Nat) : List (α × Nat) :=
  positions.filterMap fun i => xs[i]?.map (·, i)

/-- The codemods at several positions are those that are found there. -/
theorem atPositions_eq_map_found (codemods : List Codemod) (answer : List Nat) :
    atPositions codemods answer =
      (found codemods answer.mergeSort.eraseDups).map Prod.fst := by
  rw [atPositions, found, List.map_filterMap]
  refine List.filterMap_congr fun i _ => ?_
  rw [Option.map_map]
  exact Option.map_id'.symm

/-- What is found is an element of the list with its position, which is one of those asked for. -/
theorem mem_found {α : Type} {xs : List α} {positions : List Nat} {x : α × Nat} :
    x ∈ found xs positions ↔ xs[x.2]? = some x.1 ∧ x.2 ∈ positions := by
  obtain ⟨a, i⟩ := x
  simp only [found, List.mem_filterMap, Option.map_eq_some_iff, Prod.mk.injEq]
  constructor
  · rintro ⟨j, hj, b, hb, rfl, rfl⟩
    exact ⟨hb, hj⟩
  · rintro ⟨ha, hi⟩
    exact ⟨i, hi, a, ha, rfl, rfl⟩

/-- What is found keeps the order of the positions. -/
theorem pairwise_found {α : Type} (xs : List α) {positions : List Nat}
    (h : positions.Pairwise (· < ·)) : (found xs positions).Pairwise fun a b => a.2 < b.2 := by
  refine List.Pairwise.filterMap _ (fun i j hij a ha b hb => ?_) h
  obtain ⟨_, _, rfl⟩ := Option.map_eq_some_iff.mp ha
  obtain ⟨_, _, rfl⟩ := Option.map_eq_some_iff.mp hb
  exact hij

/-- The elements of a list have increasing positions. -/
theorem pairwise_zipIdx {α : Type} (xs : List α) :
    xs.zipIdx.Pairwise fun a b => a.2 < b.2 := by
  have h : (xs.zipIdx.map Prod.snd).Pairwise (· < ·) := by
    rw [List.zipIdx_map_snd]
    exact List.pairwise_lt_range'
  exact List.pairwise_map.mp h

/-- An answer picks the elements whose position is in it, each once and in order. -/
theorem atPositions_eq_keep (codemods : List Codemod) (answer : List Nat) :
    atPositions codemods answer = keep answer codemods := by
  rw [atPositions_eq_map_found, keep]
  congr 1
  have hsorted : answer.mergeSort.Pairwise (· ≤ ·) := by
    simpa using List.pairwise_mergeSort' (· ≤ ·) answer
  have hfound : (found codemods answer.mergeSort.eraseDups).Pairwise fun a b => a.2 < b.2 :=
    pairwise_found _ (pairwise_lt_eraseDups hsorted)
  have hkept : (codemods.zipIdx.filter fun x => x.2 ∈ answer).Pairwise fun a b => a.2 < b.2 :=
    (pairwise_zipIdx codemods).sublist List.filter_sublist
  -- Two lists with ascending positions are equal when they have the same members.
  have : Std.Irrefl fun a b : Codemod × Nat => a.2 < b.2 := ⟨fun a => Nat.lt_irrefl a.2⟩
  have : Std.Antisymm fun a b : Codemod × Nat => a.2 < b.2 := ⟨fun a b hab hba => by omega⟩
  refine hfound.eq_of_mem_iff hkept fun x => ?_
  rw [mem_found, List.mem_filter, List.mem_zipIdx_iff_getElem?, List.mem_eraseDups,
    List.mem_mergeSort, decide_eq_true_eq]

example : keep [2, 0, 2, 7] ["b", "c", "d"] = ["b", "d"] := by decide

/-- An answer only leaves elements out. -/
theorem keep_sublist {α : Type} (answer : List Nat) (xs : List α) :
    (keep answer xs).Sublist xs := by
  conv_rhs => rw [← List.zipIdx_map_fst 0 xs]
  exact List.filter_sublist.map Prod.fst

end Plan

/-! ### What is seen of a choice -/

/-- The codemod that an exchange applies. -/
def Exchange.transformed? : Exchange Call.Reply → Option String
  | ⟨.transform id _ _ _, _⟩ => some id
  | _ => none

/-- The positions with which an exchange answers a choice. -/
def Exchange.selection? : Exchange Call.Reply → Option (List Nat)
  | ⟨.select _ _, .ok answer⟩ => some answer
  | _ => none

/-- Only an exchange of the codemods applies one. -/
theorem Exchange.transformed?_eq_none {e : Exchange Call.Reply} (h : e.call.stage ≠ .codemods) :
    e.transformed? = none := by
  obtain ⟨c, reply⟩ := e
  cases c with
  | transform => exact absurd rfl h
  | _ => rfl

/-- Only an enquiry asks for a selection. -/
theorem Exchange.selection?_eq_none {e : Exchange Call.Reply} (h : e.call.stage ≠ .enquiry) :
    e.selection? = none := by
  obtain ⟨c, reply⟩ := e
  cases c with
  | select => exact absurd rfl h
  | _ => rfl

namespace Upgrade

/-- The codemods introduced after the installed version and not after the target. -/
def between (c : Catalog) (r : Report) : List Codemod :=
  c.codemods.filter fun m => r.installed < m.introduced ∧ m.introduced ≤ r.target

/-- What a completed upgrade applies. The two versions are those that were replied, and the
codemods between them are all applied, or those of the one answer if the user was asked. -/
structure Selected (x : Context) (r : Report) (es : List (Exchange Call.Reply)) : Prop where
  installed : ⟨.installed frameworkPackage, .ok r.installed⟩ ∈ es
  target : ∃ key release t, ⟨.release frameworkPackage key, .ok (some release)⟩ ∈ es ∧
    release.target? = .ok t ∧ t.version = r.target
  transformed : if x.prompts && !(between x.catalog r).isEmpty then
      ∃ answer, es.filterMap Exchange.selection? = [answer] ∧
        es.filterMap Exchange.transformed? =
          (Plan.keep answer (between x.catalog r)).map Codemod.id
    else es.filterMap Exchange.selection? = [] ∧
      es.filterMap Exchange.transformed? = (between x.catalog r).map Codemod.id
  once : (es.filterMap Exchange.transformed?).Nodup

/-- The applicable codemods are those between the two versions. -/
theorem Completion.applicable_eq {x : Context} {token : String} {es : List (Exchange Call.Reply)}
    {r : Report} (c : Completion x token es r) (h : x.catalog.Ordered) :
    c.applicable = between x.catalog r := by
  have hdecided := c.decided
  unfold Plan.decide at hdecided
  split at hdecided
  · injection hdecided with happlicable
    rw [between, c.target_eq, ← happlicable]
    exact Catalog.window_eq_filter h _ _
  · cases hdecided

/-- Only the part after the installations applies codemods. -/
theorem Completion.transformed_eq {x : Context} {token : String}
    {es : List (Exchange Call.Reply)} {r : Report} (c : Completion x token es r) :
    es.filterMap Exchange.transformed? = c.prepared.codemods.map Codemod.id := by
  obtain ⟨steps, hsteps, htransforming, _⟩ := course_applyCodemods c.transformed
  -- The steps give back the codemods in their order.
  rw [c.filterMap_codemods fun _ => Exchange.transformed?_eq_none, htransforming,
    List.filterMap_map, ← hsteps, List.map_map]
  exact congrFun List.filterMap_eq_map steps

/-- Only the choice of codemods asks for positions. -/
theorem Completion.selection_eq {x : Context} {token : String}
    {es : List (Exchange Call.Reply)} {r : Report} (c : Completion x token es r)
    (d : Preparation x c.target r.installed c.applicable c.preparing c.prepared) :
    es.filterMap Exchange.selection? = d.choosing.filterMap Exchange.selection? := by
  have hresolving : c.resolving.filterMap Exchange.selection? = [] :=
    (Resolve.asks_target _ _).filterMap_eq_nil c.resolved
      (by rintro ⟨_, _⟩ (rfl | ⟨_, rfl⟩) <;> rfl)
  rw [c.filterMap_chosen d (fun _ => Exchange.selection?_eq_none) (fun _ _ => rfl)
    (fun _ _ => rfl) (fun _ _ _ => rfl), hresolving]
  rfl

/-- The codemods of a completed upgrade are those between the two versions, cut down to the
answer if there was one. -/
theorem Completion.codemods_eq {x : Context} {token : String} {es : List (Exchange Call.Reply)}
    {r : Report} (c : Completion x token es r) (h : x.catalog.Ordered) :
    if x.prompts && !(between x.catalog r).isEmpty then
      ∃ answer, es.filterMap Exchange.selection? = [answer] ∧
        c.prepared.codemods = Plan.keep answer (between x.catalog r)
    else es.filterMap Exchange.selection? = [] ∧ c.prepared.codemods = between x.catalog r := by
  obtain ⟨d⟩ := preparation_of_course c.prepares
  have hchosen := Plan.course_chosen_ok d.chosen
  rw [← c.applicable_eq h, c.selection_eq d]
  split at hchosen
  · rename_i hasked
    obtain ⟨answer, hchoosing, hcodemods⟩ := hchosen
    rw [if_pos hasked, hchoosing, hcodemods, Plan.atPositions_eq_keep]
    exact ⟨answer, rfl, rfl⟩
  · rename_i hasked
    obtain ⟨hchoosing, hcodemods⟩ := hchosen
    rw [if_neg hasked, hchoosing, hcodemods]
    exact ⟨rfl, rfl⟩

/-- A completed upgrade has applied the codemods that were selected, and no others. -/
theorem Completion.selected {x : Context} {token : String} {es : List (Exchange Call.Reply)}
    {r : Report} (c : Completion x token es r) (h : x.catalog.Ordered) : Selected x r es := by
  have hcodemods := c.codemods_eq h
  refine ⟨?_, ?_, ?_, ?_⟩
  · rw [c.exchanges]
    exact List.mem_append_right _ List.mem_cons_self
  · obtain ⟨front, key, release, hresolving, htarget, _⟩ := Resolve.course_target_ok c.resolved
    refine ⟨key, release, c.target, ?_, htarget, c.target_eq.symm⟩
    rw [c.exchanges, hresolving]
    simp
  · rw [c.transformed_eq]
    split at hcodemods
    · rename_i hasked
      obtain ⟨answer, hselection, hkept⟩ := hcodemods
      rw [if_pos hasked, hkept]
      exact ⟨answer, hselection, rfl⟩
    · rename_i hasked
      obtain ⟨hselection, hall⟩ := hcodemods
      rw [if_neg hasked, hall]
      exact ⟨hselection, rfl⟩
  · -- The identifiers of the catalog are distinct, and the codemods are among its own.
    have hsublist : c.prepared.codemods.Sublist x.catalog.codemods := by
      split at hcodemods
      · obtain ⟨answer, _, hkept⟩ := hcodemods
        rw [hkept]
        exact (Plan.keep_sublist _ _).trans List.filter_sublist
      · rw [hcodemods.2]
        exact List.filter_sublist
    rw [c.transformed_eq]
    exact h.ids.sublist (hsublist.map Codemod.id)

/-- Whoever the collaborators are and whatever they answer, an upgrade that is completed
applies the codemods that `Selected` says. -/
theorem transforms_of_completed {σ : Type} (h : Handler Call.Reply σ) (x : Context)
    (token : String) (s : σ) {entries : List CodemodEntry} {r : Report}
    (hcatalog : Catalog.ofEntries entries = .ok x.catalog)
    (hrun : ((run x token).run h s).1 = .ok (.completed r)) :
    Selected x r ((run x token).exchanges h s) := by
  obtain ⟨c⟩ := completion_of_run hrun
  exact c.selected (Catalog.ordered_of_ofEntries hcatalog)

/-! ### A rehearsed choice -/

/-- A release without a pre-release. -/
def released (major minor : Nat) : Version :=
  { major, minor, patch := 0 }

/-- Five codemods, two of which come from one release. -/
def rehearsedEntries : List CodemodEntry :=
  [⟨"a", "A", "14.0.0"⟩, ⟨"b", "B", "15.0.0"⟩, ⟨"c", "C", "15.0.0"⟩, ⟨"d", "D", "15.1.0"⟩,
   ⟨"e", "E", "15.2.0"⟩]

/-- The catalog of the five codemods. -/
def rehearsedCatalog : Catalog :=
  ⟨[⟨"a", "A", released 14 0⟩, ⟨"b", "B", released 15 0⟩, ⟨"c", "C", released 15 0⟩,
    ⟨"d", "D", released 15 1⟩, ⟨"e", "E", released 15 2⟩]⟩

/-- An upgrade with the catalog and a user who can be asked. -/
def rehearsedContext : Context :=
  { catalog := rehearsedCatalog, directory := "/app", verbose := false, prompts := true }

/-- A project at 14.0.0 whose user answers with positions that are not in order, occur twice
or do not exist, and whose installer and first codemod fail. -/
def rehearsedProject : Rehearsal :=
  { registry := { releases :=
      [(("next", "15.1.0"), { version := some "15.1.0", peers := some [] })] }
    installed := [("next", .ok (released 14 0))]
    manifest := ⟨[]⟩
    user := { selecting := .positions [2, 0, 2, 7] }
    failures := { runtimeInstall := some (.reported "no network")
                  transforms := [("b", .reported "exit 1")] } }

/-- The report of the rehearsed upgrade. -/
def rehearsedReport : Report :=
  { installed := released 14 0
    target := released 15 1
    pinned := [⟨⟨"next", released 15 1⟩, none⟩]
    turbopack := false
    install := .failed (Fault.install (.reported "no network")).message
    codemods := [⟨"b", .failed (Fault.codemod "b" (.reported "exit 1")).message⟩,
                 ⟨"d", .succeeded⟩]
    recipes := [] }

/-- The rehearsal with a choice laid down comes to this report. -/
theorem rehearsedReport_eq :
    ((run rehearsedContext "15.1.0").run Rehearsal.handler rehearsedProject).1 =
      .ok (.completed rehearsedReport) := by
  simp only [run, prepareNewer, Plan.chosen, Plan.atPositions_eq_keep]
  with_unfolding_all rfl

/-- Of the positions 2, 0, 2 and 7 among the three codemods between 14.0.0 and 15.1.0, the
first and the last codemod come of it, although the installation and the first fail. -/
theorem transforms_of_rehearsal :
    Selected rehearsedContext rehearsedReport
      ((run rehearsedContext "15.1.0").exchanges Rehearsal.handler rehearsedProject) ∧
    ((run rehearsedContext "15.1.0").exchanges Rehearsal.handler rehearsedProject).filterMap
      Exchange.transformed? = ["b", "d"] :=
  ⟨transforms_of_completed Rehearsal.handler rehearsedContext "15.1.0" rehearsedProject
    (show Catalog.ofEntries rehearsedEntries = .ok rehearsedCatalog from rfl)
    rehearsedReport_eq, by
      simp only [run, prepareNewer, Plan.chosen, Plan.atPositions_eq_keep]
      with_unfolding_all rfl⟩

end Upgrade

end FrameworkUpgrade
