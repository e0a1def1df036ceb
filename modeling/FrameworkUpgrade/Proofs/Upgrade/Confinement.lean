import FrameworkUpgrade.Proofs.Upgrade.Compatibility

/-!
# `FrameworkUpgrade.Proofs.Upgrade.Confinement`: what an upgrade may ask

The revision comes from the user, and versions, tags and queries come from a registry. Whatever
they are, the calls of an upgrade are of a fixed kind: `Call.Confined` lists what may be in them,
and `asks_run` says that every upgrade asks for nothing else. A release is asked for under a key
that is one segment of a path (`IsKey`), and packages are installed by specifiers that hold one of
the pinnable packages and a canonical version (`IsSpecifier`).

The text of a query never goes further than the parser. What does is a tag, whose characters the
parser has checked, or a version, which is written by the program and not copied.
-/

set_option autoImplicit false

namespace FrameworkUpgrade

open Dialogue

/-! ### Keys and specifiers -/

/-- The characters of a key. -/
def isKeyChar (c : Char) : Bool :=
  c.isAlphanum || c == '.' || c == '_' || c == '+' || c == '-'

/-- A key that names a release: not empty, with a letter or a digit in front. -/
def IsKey (key : String) : Prop :=
  ∃ c cs, key.toList = c :: cs ∧ c.isAlphanum = true ∧ ∀ d ∈ c :: cs, isKeyChar d = true

/-- A pinnable package at a canonical version. -/
def IsSpecifier (argument : String) : Prop :=
  ∃ package ∈ Upgrade.pinnable, ∃ v : Version, v.IsCanonical ∧
    (∀ c ∈ v.text.toList, Version.isVersionChar c = true) ∧ argument = package ++ "@" ++ v.text

/-- What may stand in a version may stand in a key. -/
theorem isKeyChar_of_isVersionChar {c : Char} (h : Version.isVersionChar c = true) :
    isKeyChar c = true := by
  simp only [Version.isVersionChar, Bool.or_eq_true] at h
  simp only [isKeyChar, Bool.or_eq_true]
  tauto

/-- The text of a canonical version has characters of versions only. -/
theorem isVersionChar_of_mem_text {v : Version} (h : v.IsCanonical) {c : Char}
    (hc : c ∈ v.text.toList) : Version.isVersionChar c = true := by
  rw [Version.text, String.toList_ofList] at hc
  exact h.proper.isVersionChar_of_mem hc

/-- The text of a canonical version is a key. -/
theorem isKey_text {v : Version} (h : v.IsCanonical) : IsKey v.text := by
  obtain ⟨c, cs, hchars, hdigit⟩ := v.exists_chars_eq_cons
  have htext : v.text.toList = c :: cs := by rw [Version.text, String.toList_ofList, hchars]
  refine ⟨c, cs, htext, by simp [Char.isAlphanum, hdigit], fun d hd => ?_⟩
  exact isKeyChar_of_isVersionChar (isVersionChar_of_mem_text h (htext ▸ hd))

/-- A dist-tag is a key. -/
theorem isKey_of_isTag {cs : List Char} (h : Query.isTag cs = true) : IsKey (String.ofList cs) := by
  cases cs with
  | nil => cases h
  | cons c cs =>
    simp only [Query.isTag, Bool.and_eq_true, List.all_eq_true] at h
    obtain ⟨⟨⟨halpha, -⟩, -⟩, htag⟩ := h
    refine ⟨c, cs, String.toList_ofList, by simp [Char.isAlphanum, halpha], ?_⟩
    refine List.forall_mem_cons.mpr ⟨by simp [isKeyChar, Char.isAlphanum, halpha], fun d hd => ?_⟩
    have hchar := htag d hd
    simp only [Query.isTagChar, Bool.or_eq_true] at hchar
    simp only [isKeyChar, Bool.or_eq_true]
    tauto

/-- The specifier of a pin is one, for a package that may be pinned and a canonical version. -/
theorem isSpecifier_of_pin {p : Pin} (hpackage : p.package ∈ Upgrade.pinnable)
    (hversion : p.version.IsCanonical) : IsSpecifier p.specifier :=
  ⟨p.package, hpackage, p.version, hversion, fun _ => isVersionChar_of_mem_text hversion, rfl⟩

/-! ### Where versions come from -/

/-- The highest version that a search finds was read, so it is canonical. -/
theorem isCanonical_of_highest {package query : String} {es : List (Exchange Call.Reply)}
    {v : Version} (h : (Resolve.highest package query).Course es (.ok v)) : v.IsCanonical := by
  obtain ⟨q, published, _, _, hpicks⟩ := Resolve.course_highest_ok h
  obtain ⟨s, hv⟩ := hpicks.exists_read
  exact Version.isCanonical_of_read? hv

/-- The version of a target was read from its release, so it is canonical. -/
theorem isCanonical_of_target? {r : Release} {t : Target} (h : r.target? = .ok t) :
    t.version.IsCanonical := by
  obtain ⟨_, _, hread⟩ := (Release.target?_eq_ok_iff.mp h).version
  exact Version.isCanonical_of_read? hread

/-- Whatever a revision is, the key that it comes to is one that names a release. -/
theorem isKey_of_releaseKey {package token : String} {q : Query} (hq : Query.parse? token = some q)
    {es : List (Exchange Call.Reply)} {key : String}
    (h : (Resolve.releaseKey package token q).Course es (.ok key)) : IsKey key := by
  cases q with
  | exact v =>
    obtain ⟨_, ⟨⟩⟩ := (course_done _ _ _).mp h
    exact isKey_text (Query.isCanonical_of_exact hq)
  | tag name =>
    obtain ⟨_, ⟨⟩⟩ := (course_done _ _ _).mp h
    obtain ⟨htag, rfl⟩ := Query.parse?_eq_some hq
    exact isKey_of_isTag htag
  | range r =>
    obtain ⟨v, _, _, _, hhighest, hkey⟩ := (course_bind_ok _ _ _ _).mp h
    obtain ⟨_, ⟨⟩⟩ := (course_pure _ _ _).mp hkey
    exact isKey_text (isCanonical_of_highest ((course_mapFault_ok _ _ _ _).mp hhighest))

/-! ### The calls of an upgrade -/

/-- What may be in the calls of an upgrade. -/
def Call.Confined (x : Context) : Call → Prop
  | .release package key => package = frameworkPackage ∧ IsKey key
  | .published package => package ∈ [frameworkPackage, reactPackage, reactTypes, reactDomTypes]
  | .install specifiers _ _ => ∀ s ∈ specifiers, IsSpecifier s
  | .transform id directory _ _ =>
    id ∈ x.catalog.codemods.map Codemod.id ∧ directory = x.directory
  | .recipe _ directory => directory = x.directory
  | _ => True

namespace Upgrade

variable {x : Context}

/-- The release is asked for under a key, which may have been looked for first. -/
theorem asks_target_confined (token : String) :
    (Resolve.target frameworkPackage token).Asks (Call.Confined x) := by
  unfold Resolve.target
  split
  · exact .fail _
  · rename_i q hq
    have hsearch : (Resolve.releaseKey frameworkPackage token q).Asks (Call.Confined x) := by
      refine (Resolve.asks_releaseKey _ _ _).mono ?_
      rintro _ rfl
      exact List.mem_cons_self
    refine hsearch.bind_of_course fun key es hkey => ?_
    exact Asks.bind (asks_call ⟨rfl, isKey_of_releaseKey hq hkey⟩) fun _ => asks_demand _ _

/-- The version of a target that is resolved is canonical. -/
theorem isCanonical_of_target {package token : String} {es : List (Exchange Call.Reply)}
    {t : Target} (h : (Resolve.target package token).Course es (.ok t)) :
    t.version.IsCanonical := by
  obtain ⟨_, _, _, _, htarget, _⟩ := Resolve.course_target_ok h
  exact isCanonical_of_target? htarget

/-- To prepare an upgrade makes confined calls only. -/
theorem asks_prepareNewer_confined (target : Target) (installed : Version)
    (applicable : List Codemod) :
    (prepareNewer x target installed applicable).Asks (Call.Confined x) := by
  refine asks_prepareNewer_of trivial trivial (fun _ _ => trivial) (fun _ => trivial) x
    (fun m w hw => ?_) installed applicable
  -- Only React and the types are peers.
  have hpackage := (packages_wantedPeers target m).subset (List.mem_map_of_mem hw)
  exact List.mem_cons_of_mem _ hpackage

/-- Every pin is a pinnable package at a canonical version. -/
theorem isSpecifier_of_prepared {target : Target} {installed : Version}
    {applicable : List Codemod} {es : List (Exchange Call.Reply)} {p : Prepared}
    (d : Preparation x target installed applicable es p) (htarget : target.version.IsCanonical) :
    ∀ pin ∈ p.pins, IsSpecifier pin.specifier := by
  have hpeers : ∀ pin ∈ d.peers, pin.version.IsCanonical := by
    have hfound : List.Forall₂ (fun (pin : Pin) (_ : Wanted) => pin.version.IsCanonical ∧ True)
        d.peers (wantedPeers target p.manifest) := by
      refine ((Resolve.course_peers_ok d.resolved).imp ?_).flip
      rintro w pin ⟨_, _, _, hcourse⟩
      exact ⟨isCanonical_of_highest hcourse, trivial⟩
    exact ((List.forall₂_and_left _ _).mp hfound).1
  intro pin hpin
  refine isSpecifier_of_pin (d.packages_sublist.subset (List.mem_map_of_mem hpin)) ?_
  rw [d.pins_eq] at hpin
  rcases List.mem_cons.mp hpin with rfl | hpin
  · exact htarget
  · -- `react-dom` has the version of React.
    obtain ⟨peer, hpeer, hpin⟩ := List.mem_flatMap.mp hpin
    have hversion := hpeers peer hpeer
    split at hpin
    · rcases List.mem_cons.mp hpin with rfl | hpin
      · exact hversion
      · rw [List.mem_singleton.mp hpin]
        exact hversion
    · rw [List.mem_singleton.mp hpin]
      exact hversion

/-- Only codemods of the catalog are applicable. -/
theorem mem_catalog_of_decide {catalog : Catalog} {installed target : Version}
    {applicable : List Codemod} (h : Plan.decide catalog installed target = .applicable applicable)
    {c : Codemod} (hc : c ∈ applicable) : c ∈ catalog.codemods := by
  unfold Plan.decide at h
  split at h
  · cases h
    rename_i hnewer
    rw [Catalog.window, if_pos hnewer] at hc
    exact List.mem_of_mem_take (List.mem_of_mem_drop hc)
  · cases h

/-- Only applicable codemods are chosen, whatever the answer is. -/
theorem mem_of_chosen {prompts : Bool} {applicable chosen : List Codemod}
    {es : List (Exchange Call.Reply)} (h : (Plan.chosen prompts applicable).Course es (.ok chosen))
    {c : Codemod} (hc : c ∈ chosen) : c ∈ applicable := by
  have hchosen := Plan.course_chosen_ok h
  split at hchosen
  · obtain ⟨answer, _, rfl⟩ := hchosen
    obtain ⟨i, _, hi⟩ := List.mem_filterMap.mp hc
    exact List.mem_of_getElem? hi
  · rw [hchosen.2] at hc
    exact hc

/-- What comes after the preparation keeps to what was prepared. -/
theorem asks_commit_confined {p : Prepared}
    (hpins : ∀ pin ∈ p.pins, IsSpecifier pin.specifier)
    (hcodemods : ∀ c ∈ p.codemods, c ∈ x.catalog.codemods) :
    (commit x p).Asks (Call.Confined x) := by
  refine asks_commit_of (fun _ => trivial) (fun m dev => ?_) (fun c hc => ?_) (fun _ => rfl)
  · intro specifier hspecifier
    obtain ⟨pin, hpin, rfl⟩ := List.mem_map.mp hspecifier
    exact hpins pin (List.mem_filter.mp hpin).1
  · exact ⟨List.mem_map_of_mem (hcodemods c hc), rfl⟩

/-- Whatever the revision is and whatever is replied, the calls of an upgrade are confined. -/
theorem asks_run (token : String) : (run x token).Asks (Call.Confined x) := by
  refine Asks.bind (asks_line _ _) fun _ =>
    (asks_target_confined token).bind_of_course fun target es htarget => ?_
  refine Asks.bind (asks_line _ _) fun _ => Asks.bind (asks_line _ _) fun _ =>
    Asks.bind (asks_call trivial) fun _ => Asks.bind (asks_demand _ _) fun installed => ?_
  split
  · exact Asks.bind (asks_line _ _) fun _ => .done _
  · rename_i applicable hdecide
    have hprepare := asks_prepareNewer_confined (x := x) target installed applicable
    refine hprepare.bind_of_course fun prepared es' hprepared => ?_
    obtain ⟨d⟩ := preparation_of_course hprepared
    have hpins := isSpecifier_of_prepared d (isCanonical_of_target htarget)
    have hcodemods : ∀ c ∈ prepared.codemods, c ∈ x.catalog.codemods := fun c hc =>
      mem_catalog_of_decide hdecide (mem_of_chosen d.chosen hc)
    exact Asks.bind (asks_commit_confined hpins hcodemods) fun _ => .done _

end Upgrade

end FrameworkUpgrade
