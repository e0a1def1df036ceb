import FrameworkUpgrade.Proofs.Upgrade.Stages
import FrameworkUpgrade.Proofs.Version.Precedence

/-!
# `FrameworkUpgrade.Proofs.Upgrade.Decision`: what two versions decide

The installed version and the target decide whether an upgrade goes ahead, and which codemods it
applies.

An upgrade goes ahead when the target is above the installed version in the order `<`, which takes
build metadata into account. `goesAhead_cases` holds this against the standard of semantic versions.
Versions that differ in more than build metadata are decided by precedence. Of two versions that
differ in build metadata alone the standard sees no difference, and yet one of them can be upgraded
to the other, in one direction only.

A user can have the codemods between two versions listed before an upgrade. `lists_applied` says
that a listing holds the codemods within its bounds, and that a listing from the installed version
to the target holds the codemods which an upgrade applies when nobody is asked.
-/

set_option autoImplicit false

namespace FrameworkUpgrade

namespace Plan

/-! ### Whether an upgrade goes ahead -/

/-- An upgrade from the installed version to the target goes ahead. -/
def GoesAhead (c : Catalog) (installed target : Version) : Prop :=
  ∃ codemods, decide c installed target = .applicable codemods

/-- The codemods of an upgrade that goes ahead are those of the segment between the versions. -/
theorem decide_of_lt (c : Catalog) {installed target : Version} (h : installed < target) :
    decide c installed target = .applicable (c.window installed target) := by
  rw [decide, if_pos ((Version.isNewer_iff target installed).mpr h)]

/-- An upgrade goes ahead exactly if the target is greater in the order of all versions. -/
theorem goesAhead_iff_lt (c : Catalog) (installed target : Version) :
    GoesAhead c installed target ↔ installed < target := by
  constructor
  · rintro ⟨codemods, hdecide⟩
    rw [decide] at hdecide
    split at hdecide
    · rename_i hnewer
      exact (Version.isNewer_iff target installed).mp hnewer
    · cases hdecide
  · intro h
    exact ⟨_, decide_of_lt c h⟩

/-- An upgrade follows precedence where the standard sees a difference. Where it sees none, the
order of build metadata decides, and between two versions that are not the same it lets one of the
two directions go ahead. -/
theorem goesAhead_cases (c : Catalog) {installed target : Version}
    (hinstalled : installed.IsCanonical) (htarget : target.IsCanonical) :
    (¬ installed.SameButBuild target →
      (GoesAhead c installed target ↔ installed.Precedes target)) ∧
    (installed.SameButBuild target →
      (GoesAhead c installed target ↔
        Version.compareBuild installed.build target.build = .lt)) ∧
    (installed.SameButBuild target → installed ≠ target →
      (GoesAhead c installed target ↔ ¬ GoesAhead c target installed)) := by
  have hlt := Version.lt_iff_precedes hinstalled.isPlain htarget.isPlain
  rw [goesAhead_iff_lt, goesAhead_iff_lt, hlt]
  refine ⟨fun hdiffer => ?_, fun hsame => ?_, fun _ hne => ?_⟩
  · simp [hdiffer]
  · have hequal := (Version.precedence_eq_eq_iff installed target).mpr hsame
    have hnot : ¬ installed.Precedes target := by
      rw [← Version.precedence_eq_lt_iff hinstalled.isPlain htarget.isPlain, hequal]
      decide
    simp [hsame, hnot]
  · -- The order of versions is total and tells the two apart.
    rw [← hlt, Std.not_lt]
    exact ⟨Std.le_of_lt, fun hle => Std.lt_of_le_of_ne hle hne⟩

/-! ### Builds of one pre-release -/

/-- A pre-release whose number has one digit, with build metadata. -/
def ninth : Version :=
  { major := 15, minor := 0, patch := 0, pre := ["canary".toList, "9".toList]
    build := ["a".toList] }

/-- A pre-release whose number has two digits, with the same build metadata. -/
def tenth : Version :=
  { ninth with pre := ["canary".toList, "10".toList] }

/-- The same pre-release with other build metadata. -/
def tenthAgain : Version :=
  { tenth with build := ["b".toList] }

/-- The ninth pre-release is a canonical version. -/
theorem isCanonical_ninth : ninth.IsCanonical :=
  Version.isCanonical_of_read?
    (show Version.read? "15.0.0-canary.9+a".toList = some ninth by decide)

/-- The tenth pre-release is a canonical version. -/
theorem isCanonical_tenth : tenth.IsCanonical :=
  Version.isCanonical_of_read?
    (show Version.read? "15.0.0-canary.10+a".toList = some tenth by decide)

/-- Another build of it is a canonical version. -/
theorem isCanonical_tenthAgain : tenthAgain.IsCanonical :=
  Version.isCanonical_of_read?
    (show Version.read? "15.0.0-canary.10+b".toList = some tenthAgain by decide)

/-- The number 9 comes before the number 10, although as text it does not. Of the two builds of the
pre-release 10, the first can be upgraded to the second, and not the other way round. -/
theorem goesAhead_canary :
    ninth.IsCanonical ∧ tenth.IsCanonical ∧ tenthAgain.IsCanonical ∧
    ¬ ninth.SameButBuild tenth ∧ GoesAhead ⟨[]⟩ ninth tenth ∧
    tenth.SameButBuild tenthAgain ∧ tenth ≠ tenthAgain ∧
    GoesAhead ⟨[]⟩ tenth tenthAgain ∧ ¬ GoesAhead ⟨[]⟩ tenthAgain tenth := by
  have hdiffer : ¬ ninth.SameButBuild tenth := by
    rintro ⟨_, hpre⟩
    exact absurd hpre (by decide)
  have hsame : tenth.SameButBuild tenthAgain := ⟨⟨rfl, rfl, rfl⟩, rfl⟩
  have hne : tenth ≠ tenthAgain := by decide
  have hprecedes : ninth.Precedes tenth := by
    -- The words before the numbers are the same.
    refine .pre ⟨rfl, rfl, rfl⟩ (by decide) (.cons (.rel ?_))
    exact .number rfl rfl (by decide)
  obtain ⟨hnumbers, _, _⟩ := goesAhead_cases ⟨[]⟩ isCanonical_ninth isCanonical_tenth
  obtain ⟨_, hbuilds, hdirections⟩ :=
    goesAhead_cases ⟨[]⟩ isCanonical_tenth isCanonical_tenthAgain
  have hahead : GoesAhead ⟨[]⟩ tenth tenthAgain := (hbuilds hsame).mpr rfl
  exact ⟨isCanonical_ninth, isCanonical_tenth, isCanonical_tenthAgain, hdiffer,
    (hnumbers hdiffer).mpr hprecedes, hsame, hne, hahead, (hdirections hsame hne).mp hahead⟩

/-- An upgrade between two builds of one release goes ahead, although by the standard neither of
them comes before the other. -/
theorem goesAhead_same_release :
    ∃ installed target : Version, Version.parse "15.0.0+a" = .ok installed ∧
      Version.parse "15.0.0+b" = .ok target ∧ decide ⟨[]⟩ installed target = .applicable [] ∧
      ¬ installed.Precedes target ∧ ¬ target.Precedes installed := by
  refine ⟨⟨15, 0, 0, [], ["a".toList]⟩, ⟨15, 0, 0, [], ["b".toList]⟩, by decide, by decide,
    ?_, ?_, ?_⟩
  · rw [decide_of_lt _ (by decide)]
    simp [Catalog.window]
  -- The numbers are the same, and there is no pre-release.
  all_goals
    intro h
    cases h with
    | major h => exact absurd h (by decide)
    | minor _ h => exact absurd h (by decide)
    | patch _ _ h => exact absurd h (by decide)
    | release _ h _ => exact absurd rfl h
    | pre _ h _ => exact absurd rfl h

end Plan

namespace Upgrade

/-! ### What a listing shows -/

/-- A listing holds the codemods within its bounds, whichever of them are given. The segment of two
bounds starts and ends within the catalog and does not end before it starts. Before an upgrade, the
listing from the installed version to the target is what the upgrade applies when nobody is
asked. -/
theorem lists_applied {entries : List CodemodEntry} {c : Catalog}
    (hcatalog : Catalog.ofEntries entries = .ok c) :
    (∀ after upTo : Option Version, c.listing after upTo = c.codemods.filter fun m =>
      (∀ v ∈ after, v < m.introduced) ∧ ∀ v ∈ upTo, m.introduced ≤ v) ∧
    (∀ a b : Version, a ≤ b →
      bisect (Catalog.isUpTo a) c.codemods ≤ bisect (Catalog.isUpTo b) c.codemods ∧
      bisect (Catalog.isUpTo b) c.codemods ≤ c.codemods.length) ∧
    ∀ installed target : Version, installed < target →
      Plan.decide c installed target = .applicable (c.listing (some installed) (some target)) ∧
      ∀ ids, HandsOver c installed target ids →
        ids = (c.listing (some installed) (some target)).map Codemod.id := by
  have hc := Catalog.ordered_of_ofEntries hcatalog
  refine ⟨Catalog.listing_eq_filter hc, fun a b => hc.bisect_le, fun installed target hlt => ?_⟩
  -- With both bounds a listing is the segment that an upgrade takes.
  exact ⟨Plan.decide_of_lt c hlt, fun ids hids => hids.eq_window hc⟩

/-- The catalog whose codemods lie on both sides of a pre-release, listed with both bounds, with
one and with none, and with bounds in the wrong order. -/
theorem lists_staged :
    Catalog.ofEntries stagedEntries = .ok stagedCatalog ∧ stop ≤ released 15 0 ∧
    stop < released 15 0 ∧
    (stagedCatalog.listing (some stop) (some (released 15 0))).map Codemod.id = ["c", "d"] ∧
    (stagedCatalog.listing (some stop) none).map Codemod.id = ["c", "d", "e"] ∧
    (stagedCatalog.listing none none).map Codemod.id = ["a", "b", "c", "d", "e"] ∧
    stagedCatalog.listing (some (released 15 0)) (some stop) = [] ∧
    bisect (Catalog.isUpTo stop) stagedCatalog.codemods ≤
      bisect (Catalog.isUpTo (released 15 0)) stagedCatalog.codemods ∧
    HandsOver stagedCatalog stop (released 15 0) ["c", "d"] ∧
    ["c", "d"] =
      (stagedCatalog.listing (some stop) (some (released 15 0))).map Codemod.id := by
  have hcatalog : Catalog.ofEntries stagedEntries = .ok stagedCatalog := rfl
  have hle : stop ≤ released 15 0 := by decide
  have hlt : stop < released 15 0 := by decide
  obtain ⟨hlisting, hbounds, happlied⟩ := lists_applied hcatalog
  have hhanded := (happlied stop (released 15 0) hlt).2 _ handsOver_second_stage
  refine ⟨hcatalog, hle, hlt, hhanded.symm, ?_, ?_, ?_, (hbounds stop _ hle).1,
    handsOver_second_stage, hhanded⟩
  · rw [hlisting]
    decide
  · rw [hlisting]
    decide
  · rw [hlisting]
    decide

end Upgrade

end FrameworkUpgrade
