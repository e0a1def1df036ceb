import FrameworkUpgrade.Proofs.Json.Distinct
import FrameworkUpgrade.Proofs.Manifest.Pin
import FrameworkUpgrade.Proofs.Upgrade.Peers
import FrameworkUpgrade.Upgrade.Rehearsal

/-!
# `FrameworkUpgrade.Proofs.Upgrade.Revision`: what an upgrade leaves alone

An upgrade reads a manifest and writes another. `Revision` says how the two may differ:

* the members keep their order, and `dependencies` may be added behind them;
* in the two sections that declare dependencies, a pinned package has its version and every
  other entry is as it was. Packages that neither section had are added behind the entries of
  `dependencies`;
* `scripts` may differ in the dev script, when the upgrade reports so;
* all else is as it was, and so is a section that is no object.

A manifest that was read has a key in an object once. Then one pin is a revision
(`revision_pin`), and so is the flag in the dev script (`revision_enableTurbopack`). Revisions
for different packages that follow one another are one revision (`Revision.trans`), and this
makes one of all the changes of an upgrade.
-/

set_option autoImplicit false

namespace FrameworkUpgrade

open Dialogue Json Manifest

namespace Upgrade

/-- The entries to be added for packages that neither section has, in the order of the
pins. -/
def missing (m : Manifest) (pins : List Pin) : Members :=
  (pins.filter fun p => !sections.any (m.sectionHas · p.package)).map fun p =>
    (p.package, .text p.version.text)

/-- What becomes of an entry of a section. -/
structure RevisedEntry (pins : List Pin) (key : String) (before after : Json) : Prop where
  pinned : ∀ p ∈ pins, p.package = key → after = .text p.version.text
  kept : key ∉ pins.map Pin.package → after = before

/-- What becomes of a section. -/
inductive RevisedSection (pins : List Pin) (added : Members) : Json → Json → Prop where
  | object {ms ms' : Members} (entries : ms.Alike (RevisedEntry pins) ms') :
      RevisedSection pins added (.object ms) (.object (ms' ++ added))
  | other {j : Json} (h : j.members? = none) : RevisedSection pins added j j

/-- What becomes of the scripts. -/
inductive RevisedScripts (turbopack : Bool) : Json → Json → Prop where
  | kept (j : Json) : RevisedScripts turbopack j j
  | dev {ms ms' : Members} (reported : turbopack = true)
      (scripts : ms.Alike (fun key before after => key ≠ devName → after = before) ms') :
      RevisedScripts turbopack (.object ms) (.object ms')

/-- What becomes of a member of the manifest. -/
structure RevisedMember (pins : List Pin) (added : Members) (turbopack : Bool) (key : String)
    (before after : Json) : Prop where
  runtime : key = runtimeSection → RevisedSection pins added before after
  dev : key = devSection → RevisedSection pins [] before after
  scripts : key = scriptSection → RevisedScripts turbopack before after
  other : key ≠ runtimeSection → key ≠ devSection → key ≠ scriptSection → after = before

/-- The member that a manifest without the section for running a project gets for entries. -/
def addedSection (m : Manifest) (added : Members) : Members :=
  if Members.has runtimeSection m.root || added.isEmpty then []
  else [(runtimeSection, .object added)]

/-- How a manifest becomes another. -/
def Revision (pins : List Pin) (added : Members) (turbopack : Bool) (m m' : Manifest) : Prop :=
  ∃ kept, m.root.Alike (RevisedMember pins added turbopack) kept ∧
    m'.root = kept ++ addedSection m added

/-! ### Revisions in a row -/

/-- Two revisions of an entry in a row are one, if no package is pinned in both. -/
theorem RevisedEntry.trans {ps qs : List Pin}
    (hne : ∀ p ∈ ps, p.package ∉ qs.map Pin.package) {key : String} {x y z : Json}
    (h : RevisedEntry ps key x y) (h' : RevisedEntry qs key y z) :
    RevisedEntry (ps ++ qs) key x z where
  pinned p hp hkey := by
    rcases List.mem_append.mp hp with hp | hp
    · -- No later pin is for the package.
      rw [h'.kept (hkey ▸ hne p hp), h.pinned p hp hkey]
    · exact h'.pinned p hp hkey
  kept hkey := by
    rw [List.map_append, List.mem_append, not_or] at hkey
    rw [h'.kept hkey.2, h.kept hkey.1]

/-- So are two revisions of a section, if the second pins nothing that the first has added. -/
theorem RevisedSection.trans {ps qs : List Pin} {added added' : Members}
    (hne : ∀ p ∈ ps, p.package ∉ qs.map Pin.package)
    (hadded : ∀ e ∈ added, e.1 ∉ qs.map Pin.package) {x y z : Json}
    (h : RevisedSection ps added x y) (h' : RevisedSection qs added' y z) :
    RevisedSection (ps ++ qs) (added ++ added') x z := by
  cases h with
  | other hx =>
    cases h' with
    | object _ => cases hx
    | other _ => exact .other hx
  | object hentries =>
    cases h' with
    | other hy => cases hy
    | object hentries' =>
      obtain ⟨kept, new, rfl, hkept, hnew⟩ := hentries'.append_left
      -- The entries that were added are for none of the later pins.
      have hsame : new = added := hnew.eq fun e he _ hvalue => hvalue.kept (hadded e he)
      rw [hsame, List.append_assoc]
      exact .object (hentries.trans hkept fun _ _ _ _ => RevisedEntry.trans hne)

/-- So are two revisions of the scripts, and one of them may have set the flag. -/
theorem RevisedScripts.trans {turbopack turbopack' : Bool} {x y z : Json}
    (h : RevisedScripts turbopack x y) (h' : RevisedScripts turbopack' y z) :
    RevisedScripts (turbopack || turbopack') x z := by
  cases h with
  | kept _ =>
    cases h' with
    | kept _ => exact .kept _
    | dev hreported hscripts => exact .dev (by rw [hreported, Bool.or_true]) hscripts
  | dev hreported hscripts =>
    have hreported : (turbopack || turbopack') = true := by rw [hreported, Bool.true_or]
    cases h' with
    | kept _ => exact .dev hreported hscripts
    | dev _ hscripts' =>
      refine .dev hreported (hscripts.trans hscripts' fun _ _ _ _ hxy hyz hkey => ?_)
      rw [hyz hkey, hxy hkey]

/-- So are two revisions of any member. -/
theorem RevisedMember.trans {ps qs : List Pin} {added added' : Members}
    {turbopack turbopack' : Bool} (hne : ∀ p ∈ ps, p.package ∉ qs.map Pin.package)
    (hadded : ∀ e ∈ added, e.1 ∉ qs.map Pin.package) {key : String} {x y z : Json}
    (h : RevisedMember ps added turbopack key x y)
    (h' : RevisedMember qs added' turbopack' key y z) :
    RevisedMember (ps ++ qs) (added ++ added') (turbopack || turbopack') key x z where
  runtime hkey := (h.runtime hkey).trans hne hadded (h'.runtime hkey)
  dev hkey := (h.dev hkey).trans hne (List.forall_mem_nil _) (h'.dev hkey)
  scripts hkey := (h.scripts hkey).trans (h'.scripts hkey)
  other hruntime hdev hscripts := by
    rw [h'.other hruntime hdev hscripts, h.other hruntime hdev hscripts]

/-- No section is added to a manifest that has one. -/
theorem addedSection_of_mem {m : Manifest} (h : runtimeSection ∈ Members.keys m.root)
    (added : Members) : addedSection m added = [] := by
  rw [addedSection, Members.has_iff.mpr h, Bool.true_or]
  rfl

/-- No section is added for no package. -/
theorem addedSection_nil (m : Manifest) : addedSection m [] = [] := by
  rw [addedSection, List.isEmpty_nil, Bool.or_true]
  rfl

/-- A section is added to a manifest without one, for the packages that it is to hold. -/
theorem addedSection_of_not_mem {m : Manifest} (h : runtimeSection ∉ Members.keys m.root)
    {added : Members} (hne : added ≠ []) :
    addedSection m added = [(runtimeSection, .object added)] := by
  have hhas : Members.has runtimeSection m.root = false :=
    Bool.eq_false_iff.mpr fun hhas => h (Members.has_iff.mp hhas)
  have hempty : added.isEmpty = false := by
    rw [Bool.eq_false_iff, ne_eq, List.isEmpty_iff]
    exact hne
  rw [addedSection, hhas, hempty]
  rfl

/-- A section that was just added takes the entries of later revisions. -/
theorem RevisedSection.eq_of_added {qs : List Pin} {added added' : Members}
    (hadded : ∀ e ∈ added, e.1 ∉ qs.map Pin.package) {z : Json}
    (h : RevisedSection qs added' (.object added) z) : z = .object (added ++ added') := by
  cases h with
  | other hx => cases hx
  | object hentries => rw [hentries.eq fun e he _ hvalue => hvalue.kept (hadded e he)]

/-- What later revisions make of the section that is added, if one is. -/
theorem addedSection_append {qs : List Pin} {added added' back : Members} {turbopack : Bool}
    {m m' : Manifest} (hadded : ∀ e ∈ added, e.1 ∉ qs.map Pin.package)
    (hkeys : Members.keys m'.root = Members.keys m.root ++ Members.keys (addedSection m added))
    (hback : Members.Alike (RevisedMember qs added' turbopack) (addedSection m added) back) :
    back ++ addedSection m' added' = addedSection m (added ++ added') := by
  by_cases hmem : runtimeSection ∈ Members.keys m.root
  · have hmem' : runtimeSection ∈ Members.keys m'.root := by
      rw [hkeys]
      exact List.mem_append_left _ hmem
    rw [addedSection_of_mem hmem] at hback
    cases hback
    rw [addedSection_of_mem hmem, addedSection_of_mem hmem']
    rfl
  · by_cases hnil : added = []
    · -- Nothing was added, so the second manifest lacks the section as the first does.
      subst hnil
      rw [addedSection_nil] at hkeys hback
      cases hback
      have hhas : Members.has runtimeSection m'.root = Members.has runtimeSection m.root := by
        rw [Bool.eq_iff_iff, Members.has_iff, Members.has_iff, hkeys]
        simp [Members.keys]
      rw [addedSection, hhas]
      rfl
    · have hmem' : runtimeSection ∈ Members.keys m'.root := by
        rw [hkeys, addedSection_of_not_mem hmem hnil]
        exact List.mem_append_right _ List.mem_cons_self
      rw [addedSection_of_not_mem hmem hnil] at hback
      have hne : added ++ added' ≠ [] := fun h => hnil (List.append_eq_nil_iff.mp h).1
      rw [addedSection_of_mem hmem', addedSection_of_not_mem hmem hne, List.append_nil]
      cases hback with
      | cons hmember hrest =>
        cases hrest
        rw [(hmember.runtime rfl).eq_of_added hadded]

/-- A revision after a revision for other packages is a revision for the packages of both. -/
theorem Revision.trans {ps qs : List Pin} {added added' : Members}
    {turbopack turbopack' : Bool} {m₁ m₂ m₃ : Manifest}
    (hne : ∀ p ∈ ps, p.package ∉ qs.map Pin.package)
    (hadded : ∀ e ∈ added, e.1 ∉ qs.map Pin.package)
    (h : Revision ps added turbopack m₁ m₂) (h' : Revision qs added' turbopack' m₂ m₃) :
    Revision (ps ++ qs) (added ++ added') (turbopack || turbopack') m₁ m₃ := by
  obtain ⟨kept, hkept, hroot⟩ := h
  obtain ⟨kept', hkept', hroot'⟩ := h'
  have hkeys : Members.keys m₂.root =
      Members.keys m₁.root ++ Members.keys (addedSection m₁ added) := by
    rw [hroot, Members.keys, List.map_append, ← Members.keys, ← Members.keys, hkept.keys_eq]
  -- The second revision goes through the members of the first manifest, and then through the
  -- section that the first revision may have added.
  rw [hroot] at hkept'
  obtain ⟨front, back, rfl, hfront, hback⟩ := hkept'.append_left
  refine ⟨front, hkept.trans hfront fun _ _ _ _ => RevisedMember.trans hne hadded, ?_⟩
  rw [hroot', List.append_assoc, addedSection_append hadded hkeys hback]

/-! ### One change -/

/-- Entries for other packages are as they were. -/
theorem entries_same {pins : List Pin} {ms : Members}
    (h : ∀ p ∈ pins, p.package ∉ Members.keys ms) : ms.Alike (RevisedEntry pins) ms := by
  refine .of_eq fun e he => ⟨?_, fun _ => rfl⟩
  intro p hp hkey
  exact absurd (List.mem_map.mpr ⟨e, he, hkey.symm⟩) (h p hp)

/-- A section to which nothing is added. -/
theorem RevisedSection.of_entries {pins : List Pin} {ms ms' : Members}
    (h : ms.Alike (RevisedEntry pins) ms') : RevisedSection pins [] (.object ms) (.object ms') := by
  have hobject : RevisedSection pins [] (.object ms) (.object (ms' ++ [])) := .object h
  rwa [List.append_nil] at hobject

/-- A section that has none of the packages is as it was. -/
theorem RevisedSection.same {pins : List Pin} {j : Json}
    (h : ∀ ms, j = .object ms → ∀ p ∈ pins, p.package ∉ Members.keys ms) :
    RevisedSection pins [] j j := by
  cases hj : j with
  | object ms => exact .of_entries (entries_same (h ms hj))
  | _ => exact .other rfl

/-- A member that is as it was. -/
theorem RevisedMember.same {pins : List Pin} {added : Members} {turbopack : Bool}
    {key : String} {j : Json} (hruntime : key = runtimeSection → RevisedSection pins added j j)
    (hdev : key = devSection → RevisedSection pins [] j j) :
    RevisedMember pins added turbopack key j j where
  runtime := hruntime
  dev := hdev
  scripts _ := .kept j
  other _ _ _ := rfl

/-- The pin of a package that a section may have. -/
theorem revisedSection_repin {j : Json} (hj : j.Distinct) (p : Pin) :
    RevisedSection [p] [] j (repinSection p.package p.version.text j) := by
  cases j with
  | object ms =>
    have hkeys := (distinct_object.mp hj).1
    refine .of_entries (.of_update hkeys fun e _ => ⟨?_, ?_⟩)
    · intro q hq hkey
      rw [List.mem_singleton.mp hq] at hkey ⊢
      exact if_pos hkey.symm
    · intro hkey
      exact if_neg fun heq => hkey (List.mem_singleton.mpr heq)
  | _ => exact .other rfl

/-- The pin of a package that a section does not have. -/
theorem revisedSection_addTo {j : Json} {p : Pin}
    (h : ∀ ms, j = .object ms → p.package ∉ Members.keys ms) :
    RevisedSection [p] [(p.package, .text p.version.text)] j
      (addTo p.package p.version.text j) := by
  cases hj : j with
  | object ms =>
    have hfresh := h ms hj
    show RevisedSection _ _ _ (.object (Members.put _ _ ms))
    rw [Members.put_of_not_mem hfresh]
    refine .object (entries_same fun q hq => ?_)
    rw [List.mem_singleton.mp hq]
    exact hfresh
  | _ => exact .other rfl

/-- The flag in the dev script. -/
theorem revisedScripts_turboScripts {j : Json} (hj : j.Distinct) :
    RevisedScripts true j (turboScripts j) := by
  cases j with
  | object ms =>
    have hkeys := (distinct_object.mp hj).1
    exact .dev rfl (.of_update hkeys fun e _ hne => if_neg hne)
  | _ => exact .kept _

/-- The pin of a package that some section holds. -/
theorem revision_pin_of_held {m : Manifest} (hm : (Json.object m.root).Distinct) {p : Pin}
    (h : sections.any (m.sectionHas · p.package) = true) :
    Revision [p] [] false m (m.pin p.package p.version.text) := by
  obtain ⟨hkeys, hvalues⟩ := distinct_object.mp hm
  let repinned : Json → Json := repinSection p.package p.version.text
  have hruntime : m.root.Alike
      (fun key x y => x.Distinct ∧ y = if key = runtimeSection then repinned x else x)
      (Members.update runtimeSection repinned m.root) :=
    .of_update hkeys fun e he => ⟨hvalues e he, rfl⟩
  have hdev : Members.Alike (fun key y z => z = if key = devSection then repinned y else y)
      (Members.update runtimeSection repinned m.root)
      (Members.update devSection repinned (Members.update runtimeSection repinned m.root)) := by
    refine .of_update ?_ fun _ _ => rfl
    rw [Members.keys_update]
    exact hkeys
  refine ⟨_, hruntime.trans hdev ?_, ?_⟩
  -- The sections are two members, and each is changed by its own of the two updates.
  · rintro key x _ _ ⟨hx, rfl⟩ rfl
    refine ⟨?_, ?_, ?_, ?_⟩
    · rintro rfl
      rw [if_neg (by decide), if_pos rfl]
      exact revisedSection_repin hx p
    · rintro rfl
      rw [if_pos rfl, if_neg (by decide)]
      exact revisedSection_repin hx p
    · rintro rfl
      exact .kept _
    · intro hruntime hdev _
      rw [if_neg hdev, if_neg hruntime]
  · rw [addedSection_nil, List.append_nil, pin, if_pos h]
    rfl

/-- The pin of a package that no section holds. -/
theorem revision_pin_of_not_held {m : Manifest} (hm : (Json.object m.root).Distinct) {p : Pin}
    (h : ¬ sections.any (m.sectionHas · p.package) = true) :
    Revision [p] [(p.package, .text p.version.text)] false m
      (m.pin p.package p.version.text) := by
  obtain ⟨hkeys, hvalues⟩ := distinct_object.mp hm
  have hfresh {name : String} (hname : name ∈ sections) {value : Json}
      (hmem : (name, value) ∈ m.root) (ms : Members) (hvalue : value = .object ms) :
      p.package ∉ Members.keys ms :=
    not_mem_of_not_held hm h hname (hvalue ▸ hmem)
  have hdev {value : Json} (hmem : (devSection, value) ∈ m.root) :
      RevisedSection [p] [] value value := by
    refine .same fun ms hvalue q hq => ?_
    rw [List.mem_singleton.mp hq]
    exact hfresh (by decide) hmem ms hvalue
  rw [pin, if_neg h, add]
  -- The entry goes into the section that is there, or into a new member behind the others.
  by_cases hhas : Members.has runtimeSection m.root = true
  · refine ⟨Members.update runtimeSection (addTo p.package p.version.text) m.root, ?_, ?_⟩
    · refine .of_update hkeys ?_
      rintro ⟨key, value⟩ hmem
      refine ⟨?_, ?_, ?_, ?_⟩
      · rintro rfl
        rw [if_pos rfl]
        exact revisedSection_addTo (hfresh (by decide) hmem)
      · rintro rfl
        exact hdev hmem
      · rintro rfl
        exact .kept _
      · exact fun hruntime _ _ => if_neg hruntime
    · rw [if_pos hhas, addedSection_of_mem (Members.has_iff.mp hhas), List.append_nil]
  · have hnew : runtimeSection ∉ Members.keys m.root := fun hmem => hhas (Members.has_iff.mpr hmem)
    refine ⟨m.root, ?_, ?_⟩
    · refine .of_eq ?_
      rintro ⟨key, value⟩ hmem
      refine .same ?_ ?_
      · rintro rfl
        exact absurd (List.mem_map_of_mem hmem) hnew
      · rintro rfl
        exact hdev hmem
    · rw [if_neg hhas, addedSection_of_not_mem hnew (List.cons_ne_nil _ _)]
      exact Members.put_of_not_mem hnew _

/-- One pin is a revision. -/
theorem revision_pin {m : Manifest} (hm : (Json.object m.root).Distinct) (p : Pin) :
    Revision [p] (missing m [p]) false m (m.pin p.package p.version.text) := by
  by_cases h : sections.any (m.sectionHas · p.package) = true
  · have hmissing : missing m [p] = [] := by simp [missing, h]
    rw [hmissing]
    exact revision_pin_of_held hm h
  · have hmissing : missing m [p] = [(p.package, .text p.version.text)] := by simp [missing, h]
    rw [hmissing]
    exact revision_pin_of_not_held hm h

/-- A manifest that is not changed is its own revision. -/
theorem revision_refl (m : Manifest) : Revision [] [] false m m := by
  have hsame (j : Json) : RevisedSection [] [] j j := .same fun _ _ => List.forall_mem_nil _
  refine ⟨m.root, .of_eq fun _ _ => .same (fun _ => hsame _) fun _ => hsame _, ?_⟩
  rw [addedSection_nil, List.append_nil]

/-- The flag in the dev script is a revision, and it pins nothing. -/
theorem revision_enableTurbopack {m : Manifest} (hm : (Json.object m.root).Distinct) :
    Revision [] [] m.enableTurbopack.2 m m.enableTurbopack.1 := by
  obtain ⟨hkeys, hvalues⟩ := distinct_object.mp hm
  unfold enableTurbopack
  split
  · refine ⟨Members.update scriptSection turboScripts m.root, ?_, ?_⟩
    · refine .of_update hkeys ?_
      rintro ⟨key, value⟩ hmem
      refine ⟨?_, ?_, ?_, ?_⟩
      · rintro rfl
        exact .same fun _ _ => List.forall_mem_nil _
      · rintro rfl
        exact .same fun _ _ => List.forall_mem_nil _
      · rintro rfl
        rw [if_pos rfl]
        exact revisedScripts_turboScripts (hvalues _ hmem)
      · exact fun _ _ hscripts => if_neg hscripts
    · rw [addedSection_nil, List.append_nil]
  · exact revision_refl m

/-! ### All changes of an upgrade -/

/-- What is missing for later pins does not depend on a pin for another package. -/
theorem missing_cons {p : Pin} {ps : List Pin} (hp : p.package ∉ ps.map Pin.package)
    (m : Manifest) :
    missing m (p :: ps) = missing m [p] ++ missing (m.pin p.package p.version.text) ps := by
  have hlater : missing (m.pin p.package p.version.text) ps = missing m ps := by
    unfold missing
    congr 1
    refine List.filter_congr fun q hq => ?_
    have hne : q.package ≠ p.package := fun heq => hp (List.mem_map.mpr ⟨q, hq, heq⟩)
    have hheld : sections.any ((m.pin p.package p.version.text).sectionHas · q.package) =
        sections.any (m.sectionHas · q.package) := by
      simp only [sections, List.any_cons, List.any_nil, sectionHas_eq]
      rw [held?_pin_ne hne _ (by decide), held?_pin_ne hne _ (by decide)]
    rw [hheld]
  rw [hlater]
  show missing m ([p] ++ ps) = _
  unfold missing
  rw [List.filter_append, List.map_append]

/-- Pins for distinct packages are one revision. -/
theorem revision_pinAll {m : Manifest} (hm : (Json.object m.root).Distinct) {ps : List Pin}
    (hnodup : (ps.map Pin.package).Nodup) :
    Revision ps (missing m ps) false m (pinAll m ps).1 := by
  -- The first pin changes the manifest that the others meet, but not what is missing for them.
  induction ps generalizing m with
  | nil => exact revision_refl m
  | cons p ps ih =>
    obtain ⟨hp, hnodup⟩ := List.nodup_cons.mp hnodup
    have hlater := ih (distinct_pin hm p.package p.version.text) hnodup
    rw [missing_cons hp]
    refine (revision_pin hm p).trans ?_ ?_ hlater
    · intro q hq
      rw [List.mem_singleton.mp hq]
      exact hp
    · intro e he
      obtain ⟨q, hq, rfl⟩ := List.mem_map.mp he
      rw [List.mem_singleton.mp (List.mem_of_mem_filter hq)]
      exact hp

/-- Any number of pins keep the keys distinct. -/
theorem distinct_pinAll {m : Manifest} (hm : (Json.object m.root).Distinct) (ps : List Pin) :
    (Json.object (pinAll m ps).1.root).Distinct := by
  induction ps generalizing m with
  | nil => exact hm
  | cons p ps ih => exact ih (distinct_pin hm p.package p.version.text)

/-- The manifest to write is a revision of the one that was read. -/
theorem revision_revised {p : Prepared} (hm : (Json.object p.manifest.root).Distinct)
    (hnodup : (p.pins.map Pin.package).Nodup) :
    Revision p.pins (missing p.manifest p.pins) (revised p).2.2 p.manifest (revised p).1 := by
  have hpins := revision_pinAll hm hnodup
  unfold revised
  cases p.followUps.turbopack with
  | false => exact hpins
  | true =>
    have hflag := revision_enableTurbopack (distinct_pinAll hm p.pins)
    have hboth := hpins.trans (fun _ _ => List.not_mem_nil) (fun _ _ => List.not_mem_nil) hflag
    rwa [List.append_nil, List.append_nil, Bool.false_or] at hboth

/-- Whoever the collaborators are and whatever they answer, the manifest that a completed
upgrade writes is a revision of the one it read, for the pins that it reports. The entries it
adds are for the packages that neither section had. -/
theorem revision_of_completed {σ : Type} (h : Handler Call.Reply σ) (x : Context)
    (token : String) (s : σ) {r : Report} {cs : List Char} {m : Manifest}
    (hread : Manifest.read cs = .ok m)
    (hgiven : m ∈ ((run x token).exchanges h s).filterMap Exchange.read?)
    (hrun : ((run x token).run h s).1 = .ok (.completed r)) :
    ∃ m', ((run x token).exchanges h s).filterMap Exchange.written? = [m'] ∧
      Revision (r.pinned.map WrittenPin.pin) (missing m (r.pinned.map WrittenPin.pin))
        r.turbopack m m' := by
  obtain ⟨c⟩ := completion_of_run hrun
  obtain ⟨d⟩ := preparation_of_course c.prepares
  have hm : m = c.prepared.manifest := by
    rw [c.read_eq] at hgiven
    exact List.mem_singleton.mp hgiven
  have hdistinct := distinct_root_of_read hread
  refine ⟨_, c.written_eq, ?_⟩
  rw [c.pins_eq, c.turbopack_eq, hm]
  exact revision_revised (hm ▸ hdistinct) d.nodup_packages

/-! ### A manifest with members of every kind -/

/-- A text with a dev script, entries that are pinned, and entries and members that are not. -/
def shopText : String :=
  "\x7b\"private\":true,\"scripts\":\x7b\"dev\":\"next dev\",\"test\":\"jest\"\x7d," ++
    "\"dependencies\":\x7b\"react\":\"^18.2.0\",\"zod\":\"3\"\x7d," ++
    "\"devDependencies\":\x7b\"jest\":\"29\",\"@types/react\":\"^18.2.0\"\x7d\x7d"

/-- The manifest of the text. -/
def shopManifest : Manifest :=
  ⟨[("private", .bool true),
    ("scripts", .object [("dev", .text "next dev"), ("test", .text "jest")]),
    ("dependencies", .object [("react", .text "^18.2.0"), ("zod", .text "3")]),
    ("devDependencies", .object [("jest", .text "29"), ("@types/react", .text "^18.2.0")])]⟩

/-- The manifest after the upgrade. -/
def shopRevised : Manifest :=
  ⟨[("private", .bool true),
    ("scripts",
      .object [("dev", .text "next dev --turbopack"), ("test", .text "jest")]),
    ("dependencies", .object [("react", .text "19.0.0"), ("zod", .text "3"),
      ("next", .text "15.1.0"), ("react-dom", .text "19.0.0")]),
    ("devDependencies", .object [("jest", .text "29"), ("@types/react", .text "19.0.1")])]⟩

/-- A project with the manifest, whose user agrees to everything. -/
def shopProject : Rehearsal :=
  { typedProject with manifest := shopManifest }

/-- An upgrade of it. -/
def shopContext : Context :=
  { typedContext with prompts := true }

/-- The report of the upgrade. -/
def shopReport : Report :=
  { typedReport with turbopack := true }

/-- The rehearsal with a manifest that has members of every kind comes to this report. -/
theorem shopReport_eq :
    ((run shopContext "15.1.0").run Rehearsal.handler shopProject).1 =
      .ok (.completed shopReport) := by
  with_unfolding_all rfl

/-- Both sections, the scripts and a member of another name take part in the upgrade. -/
theorem revision_shop :
    Manifest.read shopText.toList = .ok shopManifest ∧
    (∃ m', ((run shopContext "15.1.0").exchanges Rehearsal.handler shopProject).filterMap
        Exchange.written? = [m'] ∧
      Revision (shopReport.pinned.map WrittenPin.pin)
        (missing shopManifest (shopReport.pinned.map WrittenPin.pin)) shopReport.turbopack
        shopManifest m') ∧
    ((run shopContext "15.1.0").exchanges Rehearsal.handler shopProject).filterMap
      Exchange.written? = [shopRevised] := by
  have hread : Manifest.read shopText.toList = .ok shopManifest := by decide +kernel
  have hreads : ((run shopContext "15.1.0").exchanges Rehearsal.handler shopProject).filterMap
      Exchange.read? = [shopManifest] := by with_unfolding_all rfl
  have hgiven : shopManifest ∈ ((run shopContext "15.1.0").exchanges Rehearsal.handler
      shopProject).filterMap Exchange.read? := by
    rw [hreads]
    exact List.mem_cons_self
  refine ⟨hread, revision_of_completed Rehearsal.handler shopContext "15.1.0" shopProject hread
    hgiven shopReport_eq, ?_⟩
  with_unfolding_all rfl

end Upgrade

end FrameworkUpgrade
