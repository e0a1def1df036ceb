import FrameworkUpgrade.Manifest.DevScript
import FrameworkUpgrade.Proofs.Json.Distinct

/-!
# `FrameworkUpgrade.Proofs.Manifest.Pin`: what a pinned manifest declares

A pin gives a package its version in every section that holds the package. Where none
does, the package goes into `dependencies`, and that is possible when `dependencies` is
absent or an object. `acceptsPin` says which manifests take the pin of a package, and
`declared?_pin_self` that these are exactly the manifests which declare the package
afterwards: in any other the pin leaves everything as it is.

Everything is read off `held?`, what a section holds for a package. A pin changes it for
the pinned package alone, so several pins do not disturb one another. `isDevOnly_pin` states
that a pin leaves which packages are only in `devDependencies`: it does not move a package to
another section, and a new package is not put into that one.

A manifest that is read from a text has a key in an object once, and a pin keeps it so.
-/

set_option autoImplicit false

namespace FrameworkUpgrade

namespace Manifest

open Json

variable {m : Manifest} {package other version name : String}

/-! ### Sections -/

/-- There are two sections that declare dependencies. -/
theorem mem_sections : name ∈ sections ↔ name = runtimeSection ∨ name = devSection := by
  rw [sections, List.mem_cons, List.mem_singleton]

/-- What a section holds for a package. -/
def held? (m : Manifest) (name package : String) : Option Json :=
  (m.section? name).bind (Members.find? package)

/-- A section has a package exactly if it holds something for it. -/
theorem sectionHas_eq (m : Manifest) (name package : String) :
    m.sectionHas name package = (m.held? name package).isSome := by
  rw [sectionHas, held?]
  cases m.section? name with
  | none => rfl
  | some ms => rfl

/-- The first section that holds a package decides what is declared. -/
theorem declared?_eq (m : Manifest) (package : String) :
    m.declared? package =
      ((m.held? runtimeSection package).or (m.held? devSection package)).bind Json.text? := by
  simp only [declared?, entry?, sections, List.findSome?, held?]
  cases (m.section? runtimeSection).bind (Members.find? package) with
  | some j => rfl
  | none =>
    cases (m.section? devSection).bind (Members.find? package) with
    | some j => rfl
    | none => rfl

/-- A change of the members under a name, where that is a section. -/
theorem section?_update_self {f : Json → Json} {g : Members → Members}
    (hf : ∀ j, (f j).members? = j.members?.map g) (root : Members) (name : String) :
    (Manifest.mk (Members.update name f root)).section? name =
      ((Manifest.mk root).section? name).map g := by
  rw [section?, section?, Members.find?_update_self]
  cases Members.find? name root with
  | none => rfl
  | some j => exact hf j

/-- To change one section leaves the others. -/
theorem section?_update_ne {name other : String} (h : other ≠ name) (f : Json → Json)
    (root : Members) :
    (Manifest.mk (Members.update name f root)).section? other =
      (Manifest.mk root).section? other := by
  rw [section?, section?, Members.find?_update_ne h]

/-- To put one section leaves the others. -/
theorem section?_put_ne {name other : String} (h : other ≠ name) (value : Json)
    (root : Members) :
    (Manifest.mk (Members.put name value root)).section? other =
      (Manifest.mk root).section? other := by
  rw [section?, section?, Members.find?_put_ne h]

/-- In a section that is an object the members are pinned, and one that is none has none. -/
theorem members?_repinSection (package version : String) (j : Json) :
    (repinSection package version j).members? = j.members?.map (repin package version) := by
  cases j <;> rfl

/-- A section that is an object has the new member, and one that is none has none. -/
theorem members?_addTo (package version : String) (j : Json) :
    (addTo package version j).members? =
      j.members?.map (Members.put package (.text version)) := by
  cases j <;> rfl

/-! ### One pin -/

/-- The sections after a pin of a package that a section holds. -/
theorem section?_pin_of_held (h : sections.any (m.sectionHas · package) = true)
    (version : String) (hname : name ∈ sections) :
    (m.pin package version).section? name = (m.section? name).map (repin package version) := by
  have hself := section?_update_self (members?_repinSection package version)
  rw [pin, if_pos h]
  show (Manifest.mk (Members.update devSection _ (Members.update runtimeSection _ m.root))).section?
    name = _
  rcases mem_sections.mp hname with rfl | rfl
  · rw [section?_update_ne (by decide), hself]
  · rw [hself, section?_update_ne (by decide)]

/-- The section for running the project after a pin of a package that no section holds. -/
theorem section?_runtime_pin (h : ¬ sections.any (m.sectionHas · package) = true)
    (version : String) :
    (m.pin package version).section? runtimeSection =
      if Members.has runtimeSection m.root then
        (m.section? runtimeSection).map (Members.put package (.text version))
      else some [(package, .text version)] := by
  rw [pin, if_neg h, add]
  split
  · exact section?_update_self (members?_addTo package version) m.root runtimeSection
  · rw [section?, Members.find?_put_self]
    rfl

/-- The section for making the project after a pin of a package that no section holds. -/
theorem section?_dev_pin (h : ¬ sections.any (m.sectionHas · package) = true)
    (version : String) :
    (m.pin package version).section? devSection = m.section? devSection := by
  rw [pin, if_neg h, add]
  split
  · exact section?_update_ne (by decide) _ _
  · exact section?_put_ne (by decide) _ _

/-- A section that is no member holds no package. -/
theorem held?_eq_none_of_not_has (h : ¬ Members.has name m.root = true) (package : String) :
    m.held? name package = none := by
  rw [Bool.not_eq_true, Members.has_eq_false_iff] at h
  rw [held?, section?, h]
  rfl

/-- A pin leaves what the sections hold for other packages. -/
theorem held?_pin_ne (hne : other ≠ package) (version : String) (hname : name ∈ sections) :
    (m.pin package version).held? name other = m.held? name other := by
  by_cases h : sections.any (m.sectionHas · package) = true
  · rw [held?, section?_pin_of_held h version hname, Option.bind_map]
    exact Option.bind_congr fun ms _ => Members.find?_update_ne hne _ ms
  · -- Only the section for running the project is touched, and there another key.
    rcases mem_sections.mp hname with rfl | rfl
    · rw [held?, section?_runtime_pin h]
      split
      · rw [Option.bind_map]
        exact Option.bind_congr fun ms _ => Members.find?_put_ne hne _ ms
      · rename_i hhas
        rw [held?_eq_none_of_not_has hhas]
        exact if_neg hne.symm
    · rw [held?, section?_dev_pin h, held?]

/-- A pin leaves what is declared of other packages. -/
theorem declared?_pin_ne (hne : other ≠ package) (version : String) :
    (m.pin package version).declared? other = m.declared? other := by
  rw [declared?_eq, declared?_eq, held?_pin_ne hne version (by decide),
    held?_pin_ne hne version (by decide)]

/-- Whether a manifest can take a pin of a package: the section for making the project
holds the package, or the section for running it is absent or an object. -/
def acceptsPin (m : Manifest) (package : String) : Bool :=
  m.sectionHas devSection package || !Members.has runtimeSection m.root ||
    (m.section? runtimeSection).isSome

/-- A package that some section holds can be pinned. -/
theorem acceptsPin_of_held (h : sections.any (m.sectionHas · package) = true) :
    m.acceptsPin package = true := by
  obtain ⟨name, hname, hhas⟩ := List.any_eq_true.mp h
  rw [acceptsPin, Bool.or_eq_true, Bool.or_eq_true]
  rcases mem_sections.mp hname with rfl | rfl
  · right
    rw [sectionHas] at hhas
    cases hsection : m.section? runtimeSection with
    | some ms => rfl
    | none => rw [hsection] at hhas; cases hhas
  · exact .inl (.inl hhas)

/-- A manifest that declares a package can take a pin of it. -/
theorem acceptsPin_of_declares (h : m.declares package = true) : m.acceptsPin package = true := by
  refine acceptsPin_of_held (List.any_eq_true.mpr ?_)
  obtain ⟨version, hversion⟩ := Option.isSome_iff_exists.mp h
  rw [declared?_eq] at hversion
  obtain ⟨j, hj, _⟩ := Option.bind_eq_some_iff.mp hversion
  rcases Option.or_eq_some_iff.mp hj with hruntime | ⟨_, hdev⟩
  · exact ⟨runtimeSection, by decide, by rw [sectionHas_eq, hruntime]; rfl⟩
  · exact ⟨devSection, by decide, by rw [sectionHas_eq, hdev]; rfl⟩

/-- What a section holds for a package becomes the version of its pin, when some section holds
anything. -/
theorem held?_pin_of_held (h : sections.any (m.sectionHas · package) = true) (version : String)
    (hname : name ∈ sections) :
    (m.pin package version).held? name package =
      (m.held? name package).map fun _ => .text version := by
  rw [held?, section?_pin_of_held h version hname, Option.bind_map, held?, Option.map_bind]
  exact Option.bind_congr fun ms _ => Members.find?_update_self package _ ms

/-- What no section has, neither of the two holds. -/
theorem held?_eq_none_of_not_held (h : ¬ sections.any (m.sectionHas · package) = true)
    (hname : name ∈ sections) : m.held? name package = none := by
  rw [List.any_eq_true] at h
  rw [← Option.not_isSome_iff_eq_none, ← sectionHas_eq]
  exact fun hhas => h ⟨name, hname, hhas⟩

/-- The pin of a package that no section holds stands in the section for running the project,
when the manifest can take it. -/
theorem held?_runtime_pin_self (h : ¬ sections.any (m.sectionHas · package) = true)
    (version : String) :
    (m.pin package version).held? runtimeSection package =
      if m.acceptsPin package then some (.text version) else none := by
  rw [acceptsPin, sectionHas_eq, held?_eq_none_of_not_held h (by decide)]
  rw [held?, section?_runtime_pin h]
  split
  · -- The member is there. When it is no object, the pin is lost.
    rename_i hhas
    rw [hhas]
    cases m.section? runtimeSection with
    | none => rfl
    | some ms =>
      rw [Option.map_some, Option.bind_some, Members.find?_put_self]
      rfl
  · rename_i hhas
    rw [Bool.eq_false_iff.mpr hhas, Option.bind_some, Members.find?, if_pos rfl]
    rfl

/-- A pin of a package that no section has does not put it among the development dependencies. -/
theorem held?_dev_pin_self (h : ¬ sections.any (m.sectionHas · package) = true)
    (version : String) : (m.pin package version).held? devSection package = none := by
  rw [held?, section?_dev_pin h]
  exact held?_eq_none_of_not_held h (by decide)

/-- The pin of a package that some section holds is declared. -/
theorem declared?_pin_of_held (h : sections.any (m.sectionHas · package) = true)
    (version : String) : (m.pin package version).declared? package = some version := by
  rw [declared?_eq, held?_pin_of_held h version (by decide),
    held?_pin_of_held h version (by decide)]
  simp only [sections, List.any_cons, List.any_nil, Bool.or_false, Bool.or_eq_true,
    sectionHas_eq, Option.isSome_iff_exists] at h
  rcases h with ⟨j, hj⟩ | ⟨j, hj⟩
  · rw [hj]
    rfl
  · rw [hj]
    cases m.held? runtimeSection package with
    | some _ => rfl
    | none => rfl

/-- A manifest declares the package of a pin at its version when it can take the pin, and
else it does not declare the package at all. -/
theorem declared?_pin_self (m : Manifest) (package version : String) :
    (m.pin package version).declared? package =
      if m.acceptsPin package then some version else none := by
  by_cases h : sections.any (m.sectionHas · package) = true
  · rw [declared?_pin_of_held h, acceptsPin_of_held h, if_pos rfl]
  · rw [declared?_eq, held?_dev_pin_self h, held?_runtime_pin_self h, Option.or_none]
    split
    · rfl
    · rfl

/-- A pin leaves which other packages can be pinned. -/
theorem acceptsPin_pin_ne (hne : other ≠ package) (version : String) :
    (m.pin package version).acceptsPin other = m.acceptsPin other := by
  -- An object stays an object, and a member that is created is one.
  have hruntime :
      (!Members.has runtimeSection (m.pin package version).root ||
        ((m.pin package version).section? runtimeSection).isSome) =
      (!Members.has runtimeSection m.root || (m.section? runtimeSection).isSome) := by
    by_cases h : sections.any (m.sectionHas · package) = true
    · rw [section?_pin_of_held h version (by decide), Option.isSome_map, pin, if_pos h]
      show (!Members.has _ (Members.update _ _ (Members.update _ _ _)) || _) = _
      rw [Members.has_update, Members.has_update]
    · rw [section?_runtime_pin h, pin, if_neg h, add]
      by_cases hhas : Members.has runtimeSection m.root = true
      · rw [if_pos hhas, if_pos hhas, Option.isSome_map, Members.has_update]
      · rw [if_neg hhas, if_neg hhas, Bool.eq_false_iff.mpr hhas]
        simp
  rw [acceptsPin, acceptsPin, Bool.or_assoc, Bool.or_assoc, hruntime, sectionHas_eq,
    sectionHas_eq, held?_pin_ne hne version (by decide)]

/-! ### Packages that are only in the section for making the project -/

/-- A package is a key of the object that stands under a name in a manifest. -/
def HasKeyIn (m : Manifest) (name package : String) : Prop :=
  ∃ ms, Members.find? name m.root = some (.object ms) ∧ package ∈ Members.keys ms

/-- A section has a package exactly if it is an object with that key. -/
theorem sectionHas_iff : m.sectionHas name package = true ↔ m.HasKeyIn name package := by
  unfold sectionHas section? HasKeyIn
  cases Members.find? name m.root with
  | none => simp
  | some j =>
    cases j with
    | object ms => simp [members?, Members.has_iff]
    | _ => simp [members?]

/-- A package is only for development exactly if it is a key of that section and none of the
other. -/
theorem isDevOnly_iff :
    m.isDevOnly package = true ↔
      m.HasKeyIn devSection package ∧ ¬ m.HasKeyIn runtimeSection package := by
  rw [isDevOnly, Bool.and_eq_true, Bool.not_eq_true', ← Bool.not_eq_true, sectionHas_iff,
    sectionHas_iff]

/-- What the sections hold decides where a package is. -/
theorem isDevOnly_congr {m m' : Manifest}
    (h : ∀ name ∈ sections, m'.sectionHas name package = m.sectionHas name package) :
    m'.isDevOnly package = m.isDevOnly package := by
  rw [isDevOnly, isDevOnly, h devSection (by decide), h runtimeSection (by decide)]

/-- A pin does not change which packages are only in the section for making the project. -/
theorem isDevOnly_pin (m : Manifest) (package version other : String) :
    (m.pin package version).isDevOnly other = m.isDevOnly other := by
  by_cases hsame : other = package
  · subst hsame
    by_cases hheld : sections.any (m.sectionHas · other) = true
    · -- The package gets its version where it stands, and nowhere else.
      apply isDevOnly_congr
      intro name hname
      rw [sectionHas_eq, sectionHas_eq, held?_pin_of_held hheld version hname, Option.isSome_map]
    · -- The package is new. Whether or not the pin is lost, it is not put among those for
      -- making the project.
      have hbefore : m.held? devSection other = none :=
        held?_eq_none_of_not_held hheld (by decide)
      have hafter : (m.pin other version).held? devSection other = none :=
        held?_dev_pin_self hheld version
      simp [isDevOnly, sectionHas_eq, hbefore, hafter]
  · apply isDevOnly_congr
    intro name hname
    rw [sectionHas_eq, sectionHas_eq, held?_pin_ne hsame version hname]

/-! ### Turbopack -/

/-- The flag in the dev script leaves what the sections hold. -/
theorem held?_enableTurbopack (m : Manifest) (hname : name ∈ sections) (package : String) :
    m.enableTurbopack.1.held? name package = m.held? name package := by
  rw [enableTurbopack]
  split
  · -- Neither section has the name of the scripts.
    have hne : name ≠ scriptSection := by
      rcases mem_sections.mp hname with rfl | rfl
      · decide
      · decide
    rw [held?, section?_update_ne hne]
    rfl
  · rfl

/-- The flag in the dev script leaves what is declared. -/
theorem declared?_enableTurbopack (m : Manifest) (package : String) :
    m.enableTurbopack.1.declared? package = m.declared? package := by
  rw [declared?_eq, declared?_eq, held?_enableTurbopack m (by decide),
    held?_enableTurbopack m (by decide)]

/-- The flag in the dev script has no bearing on which packages are only for development. -/
theorem isDevOnly_enableTurbopack (m : Manifest) (package : String) :
    m.enableTurbopack.1.isDevOnly package = m.isDevOnly package := by
  apply isDevOnly_congr
  intro name hname
  rw [sectionHas_eq, sectionHas_eq, held?_enableTurbopack m hname]

/-! ### Distinct keys -/

/-- The keys of a manifest that is read from a text are distinct, and so are those of every
object in it. -/
theorem distinct_root_of_read {cs : List Char} {m : Manifest}
    (h : Manifest.read cs = .ok m) : (Json.object m.root).Distinct := by
  unfold Manifest.read at h
  split at h
  · cases h
  · rename_i ms hread
    cases h
    exact distinct_of_read hread
  · cases h

/-- A package that no section holds is in no section that is an object. -/
theorem not_mem_of_not_held {m : Manifest} (hm : (Json.object m.root).Distinct)
    {package name : String} (h : ¬ sections.any (m.sectionHas · package) = true)
    (hname : name ∈ sections) {ms : Members} (hmem : (name, .object ms) ∈ m.root) :
    package ∉ Members.keys ms := by
  intro hpackage
  have hfound := Members.find?_of_mem (distinct_object.mp hm).1 hmem
  have hsection : m.section? name = some ms := by
    rw [section?, hfound]
    rfl
  refine h (List.any_eq_true.mpr ⟨name, hname, ?_⟩)
  rw [sectionHas, hsection]
  exact Members.has_iff.mpr hpackage

/-- A pin keeps the keys distinct. -/
theorem distinct_pin {m : Manifest} (hm : (Json.object m.root).Distinct)
    (package version : String) : (Json.object (m.pin package version).root).Distinct := by
  -- A pin changes a section in one of three ways, and each of them keeps keys distinct.
  have hrepin (j : Json) (hj : j.Distinct) : (repinSection package version j).Distinct := by
    cases j with
    | object ms => exact hj.update (fun _ _ => .text _) package
    | _ => exact hj
  have haddTo (j : Json) (hj : j.Distinct) : (addTo package version j).Distinct := by
    cases j with
    | object ms => exact hj.put (.text _)
    | _ => exact hj
  have hnew : (Json.object [(package, .text version)]).Distinct := by
    refine .object (List.pairwise_singleton _ _) fun m hm => ?_
    rw [List.mem_singleton.mp hm]
    exact .text _
  unfold pin add
  split
  · exact (hm.update hrepin runtimeSection).update hrepin devSection
  · split
    · exact hm.update haddTo runtimeSection
    · exact hm.put hnew

end Manifest

end FrameworkUpgrade
