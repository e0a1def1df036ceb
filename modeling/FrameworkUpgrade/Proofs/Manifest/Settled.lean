import FrameworkUpgrade.Proofs.Manifest.Pin

/-!
# `FrameworkUpgrade.Proofs.Manifest.Settled`: a pin that changes nothing

A manifest is settled for a pin when it has the pin wherever it holds the package, or cannot
take the pin at all. The pin leaves such a manifest as it is, member by member and in the same
order (`Settled.pin_eq`). A pin settles the manifest for itself (`settled_pin`), and pins of
other packages keep it so (`Settled.pin_ne`). So a pin that is made again, right away or after
pins of other packages, has no effect.
-/

set_option autoImplicit false

namespace FrameworkUpgrade

namespace Manifest

open Json

variable {m : Manifest} {package other version name : String}

/-- Some section holds the package, and each that does has the version there. -/
structure HasPin (m : Manifest) (package version : String) : Prop where
  held : sections.any (m.sectionHas · package) = true
  text : ∀ name ∈ sections, ∀ j, m.held? name package = some j → j = .text version

/-- A pin that the manifest has already changes neither section. -/
theorem HasPin.pin_eq (h : m.HasPin package version) : m.pin package version = m := by
  have hsection {name : String} (hname : name ∈ sections) :
      Members.update name (repinSection package version) m.root = m.root := by
    refine Members.update_eq_self fun j hj => ?_
    cases j with
    | object ms =>
      have hsame : repin package version ms = ms := by
        refine Members.update_eq_self fun v hv => ?_
        have hheld : m.held? name package = some v := by
          rw [held?, section?, hj]
          exact hv
        exact (h.text name hname v hheld).symm
      exact congrArg Json.object hsame
    | _ => rfl
  rw [pin, if_pos h.held]
  show Manifest.mk (Members.update devSection _ (Members.update runtimeSection _ m.root)) = m
  rw [hsection (by decide), hsection (by decide)]

/-- A pin that the manifest cannot take is lost: the section for running the project is no
object. -/
theorem pin_of_not_acceptsPin (h : ¬ m.acceptsPin package = true) (version : String) :
    m.pin package version = m := by
  have hheld : ¬ sections.any (m.sectionHas · package) = true :=
    fun hheld => h (acceptsPin_of_held hheld)
  simp only [acceptsPin, Bool.or_eq_true, Bool.not_eq_true', not_or, Bool.not_eq_false,
    Option.not_isSome_iff_eq_none] at h
  obtain ⟨⟨_, hhas⟩, hsection⟩ := h
  rw [pin, if_neg hheld, add, if_pos hhas]
  have hsame : Members.update runtimeSection (addTo package version) m.root = m.root := by
    refine Members.update_eq_self fun j hj => ?_
    cases j with
    | object ms =>
      rw [section?, hj] at hsection
      cases hsection
    | _ => rfl
  rw [hsame]

/-- A manifest that can take a pin has it afterwards. -/
theorem hasPin_pin (h : m.acceptsPin package = true) (version : String) :
    (m.pin package version).HasPin package version := by
  by_cases hheld : sections.any (m.sectionHas · package) = true
  · constructor
    · obtain ⟨name, hname, hhas⟩ := List.any_eq_true.mp hheld
      refine List.any_eq_true.mpr ⟨name, hname, ?_⟩
      rw [sectionHas_eq, held?_pin_of_held hheld version hname, Option.isSome_map,
        ← sectionHas_eq]
      exact hhas
    · intro name hname j hj
      rw [held?_pin_of_held hheld version hname] at hj
      obtain ⟨_, _, rfl⟩ := Option.map_eq_some_iff.mp hj
      rfl
  · -- The package is new, and stands in one section only.
    have hruntime := held?_runtime_pin_self hheld version
    rw [if_pos h] at hruntime
    constructor
    · refine List.any_eq_true.mpr ⟨runtimeSection, by decide, ?_⟩
      rw [sectionHas_eq, hruntime]
      rfl
    · intro name hname j hj
      rcases mem_sections.mp hname with rfl | rfl
      · exact Option.some.inj (hj.symm.trans hruntime)
      · rw [held?_dev_pin_self hheld] at hj
        cases hj

/-- The manifest has the pin, if it can take it. -/
def Settled (m : Manifest) (package version : String) : Prop :=
  m.acceptsPin package = true → m.HasPin package version

/-- Where a pin is settled, to make it again changes nothing. -/
theorem Settled.pin_eq (h : m.Settled package version) : m.pin package version = m := by
  by_cases haccepts : m.acceptsPin package = true
  · exact (h haccepts).pin_eq
  · exact pin_of_not_acceptsPin haccepts version

/-- A pin is settled once it is made, also where the manifest cannot take it. -/
theorem settled_pin (m : Manifest) (package version : String) :
    (m.pin package version).Settled package version := by
  by_cases haccepts : m.acceptsPin package = true
  · exact fun _ => hasPin_pin haccepts version
  · rw [pin_of_not_acceptsPin haccepts]
    exact fun h => absurd h haccepts

/-- A settled pin stays settled when another package is pinned. -/
theorem Settled.pin_ne (h : m.Settled package version) (hne : package ≠ other)
    (pinned : String) : (m.pin other pinned).Settled package version := by
  intro haccepts
  rw [acceptsPin_pin_ne hne] at haccepts
  obtain ⟨hheld, htext⟩ := h haccepts
  have hsame {name : String} (hname : name ∈ sections) :=
    held?_pin_ne (m := m) hne pinned hname
  constructor
  · obtain ⟨name, hname, hhas⟩ := List.any_eq_true.mp hheld
    refine List.any_eq_true.mpr ⟨name, hname, ?_⟩
    rw [sectionHas_eq, hsame hname, ← sectionHas_eq]
    exact hhas
  · intro name hname j hj
    rw [hsame hname] at hj
    exact htext name hname j hj

end Manifest

end FrameworkUpgrade
