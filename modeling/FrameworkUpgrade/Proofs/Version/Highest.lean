import FrameworkUpgrade.Proofs.Version.Order

/-!
# `FrameworkUpgrade.Proofs.Version.Highest`: the highest of some versions

`Version.highest?` goes along a list and keeps the later of two versions. What is kept in the
end is the one version of the list that none lies above (`highest?_eq_some_iff`). The order
tells apart any two versions that differ, so this settles which one it is, and only the members
of the list matter: neither their order nor how often they occur (`highest?_congr`).
-/

set_option autoImplicit false

namespace FrameworkUpgrade

namespace Version

/-- The later of two versions is one of them. -/
theorem later_eq_or (a b : Version) : later a b = a ∨ later a b = b := by
  unfold later
  split
  · exact .inl rfl
  · exact .inr rfl

/-- The later of two versions is not below the first. -/
theorem le_later_left (a b : Version) : a ≤ later a b := by
  unfold later
  split
  · exact Std.le_refl a
  · rename_i hnewer
    rwa [isNewer_iff, Std.not_lt] at hnewer

/-- The later of two versions is not below the second. -/
theorem le_later_right (a b : Version) : b ≤ later a b := by
  unfold later
  split
  · rename_i hnewer
    exact Std.le_of_lt ((isNewer_iff a b).mp hnewer)
  · exact Std.le_refl b

/-- What is kept along a list is the first version or one of the others. -/
theorem foldl_later_mem (v : Version) (vs : List Version) : vs.foldl later v ∈ v :: vs := by
  induction vs generalizing v with
  | nil => exact List.mem_cons_self
  | cons w vs ih =>
    rcases List.mem_cons.mp (ih (later v w)) with hkept | hrest
    · rw [List.foldl_cons, hkept]
      rcases later_eq_or v w with hv | hw
      · rw [hv]
        exact List.mem_cons_self
      · rw [hw]
        exact List.mem_cons_of_mem _ List.mem_cons_self
    · exact List.mem_cons_of_mem _ (List.mem_cons_of_mem _ hrest)

/-- Nothing that was passed lies above what is kept. -/
theorem le_foldl_later {v w : Version} {vs : List Version} (h : w ∈ v :: vs) :
    w ≤ vs.foldl later v := by
  induction vs generalizing v w with
  | nil =>
    rw [List.mem_singleton.mp h]
    exact Std.le_refl v
  | cons u vs ih =>
    have hkept : later v u ≤ vs.foldl later (later v u) := ih List.mem_cons_self
    rcases List.mem_cons.mp h with rfl | h
    · exact Std.le_trans (le_later_left w u) hkept
    · rcases List.mem_cons.mp h with rfl | h
      · exact Std.le_trans (le_later_right v w) hkept
      · exact ih (List.mem_cons_of_mem _ h)

/-- The highest of some versions is the one of them that none lies above. -/
theorem highest?_eq_some_iff {vs : List Version} {v : Version} :
    highest? vs = some v ↔ v ∈ vs ∧ ∀ w ∈ vs, w ≤ v := by
  cases vs with
  | nil =>
    constructor
    · exact nofun
    · rintro ⟨⟨⟩, _⟩
  | cons u vs =>
    rw [highest?, Option.some.injEq]
    constructor
    · rintro rfl
      exact ⟨foldl_later_mem u vs, fun _ => le_foldl_later⟩
    · rintro ⟨hv, hall⟩
      -- Each of the two versions is not above the other.
      exact Std.le_antisymm (hall _ (foldl_later_mem u vs)) (le_foldl_later hv)

/-- Only a list without a version has no highest one. -/
theorem highest?_eq_none_iff {vs : List Version} : highest? vs = none ↔ vs = [] := by
  cases vs with
  | nil => exact ⟨fun _ => rfl, fun _ => rfl⟩
  | cons v vs => exact ⟨nofun, nofun⟩

/-- The highest version depends on which versions there are, and on nothing else. -/
theorem highest?_congr {vs ws : List Version} (h : ∀ v, v ∈ vs ↔ v ∈ ws) :
    highest? vs = highest? ws := by
  refine Option.ext fun v => ?_
  rw [highest?_eq_some_iff, highest?_eq_some_iff, h v]
  simp only [h]

end Version

end FrameworkUpgrade
