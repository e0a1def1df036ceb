import FrameworkUpgrade.Proofs.Dialogue.Course
import FrameworkUpgrade.Proofs.Outcome
import FrameworkUpgrade.Proofs.Version.Canonical
import FrameworkUpgrade.Proofs.Version.Highest
import FrameworkUpgrade.Upgrade.Resolve

/-!
# `FrameworkUpgrade.Proofs.Upgrade.Search`: what a search finds

A search goes from a query to one version of a package. `Query.Picks` says which version that
is, given what the package has published: for a dist-tag the version that stands under it, and
for any other query the greatest of the published versions that it holds of. `Query.PicksNothing`
says when there is none.

`searchEnds_highest` states what comes of a search against every registry:

* a version comes of it exactly when the query picks that version from the answer;
* a fault of the registry is handed on as it is, and every other fault is that nothing matches:
  the text is no query, the package is unknown, or the query picks nothing;
* the published texts may be put in another order, and copies, texts that are no version and
  versions that the query does not hold of may be put in between. The search ends as before.
-/

set_option autoImplicit false

namespace FrameworkUpgrade

/-! ### What a query picks -/

namespace Query

variable {q : Query} {published published' : List String} {p p' : Published} {v : Version}

/-- A published text is read as the version, and the query holds of it. -/
structure Matches (q : Query) (published : List String) (v : Version) : Prop where
  read : ∃ s ∈ published, Version.read? s.toList = some v
  holds : q.holds v = true

/-- The text of a version that matches was published. -/
theorem Matches.mem_text (h : q.Matches published v) : v.text ∈ published := by
  obtain ⟨s, hs, hv⟩ := h.read
  -- The version was read from a published text, and it is written in no other way.
  have htext : v.text = s := (Version.text_of_read? hv).1
  exact htext ▸ hs

/-- The version that a query picks from what a package has published. -/
def Picks (q : Query) (p : Published) (v : Version) : Prop :=
  match q with
  | .tag name => ∃ s, p.tags.find? name = some s ∧ Version.read? s.toList = some v
  | q => q.Matches p.versions v ∧ ∀ w, q.Matches p.versions w → w ≤ v

/-- Of what a package has published there is nothing for a query. -/
def PicksNothing (q : Query) (p : Published) : Prop :=
  match q with
  | .tag name => ∀ s, p.tags.find? name = some s → Version.read? s.toList = none
  | q => ∀ v, ¬ q.Matches p.versions v

/-- The candidates of a query are the versions that match it. -/
theorem mem_candidates :
    v ∈ (published.filterMap fun s => Version.read? s.toList).filter q.holds ↔
      q.Matches published v := by
  rw [List.mem_filter, List.mem_filterMap]
  exact ⟨fun ⟨hread, hholds⟩ => ⟨hread, hholds⟩, fun ⟨hread, hholds⟩ => ⟨hread, hholds⟩⟩

/-- The highest version is one that matches and is not below any other. -/
theorem highest?_eq_some_iff :
    q.highest? published = some v ↔
      q.Matches published v ∧ ∀ w, q.Matches published w → w ≤ v := by
  rw [highest?, Version.highest?_eq_some_iff]
  simp only [mem_candidates]

/-- There is no highest version exactly if none matches. -/
theorem highest?_eq_none_iff :
    q.highest? published = none ↔ ∀ v, ¬ q.Matches published v := by
  rw [highest?, Version.highest?_eq_none_iff, List.eq_nil_iff_forall_not_mem]
  simp only [mem_candidates]

/-- The version that is found is the one that the query picks. -/
theorem pick?_eq_some_iff : p.pick? q = some v ↔ q.Picks p v := by
  cases q with
  | tag name => exact Option.bind_eq_some_iff
  | exact w => exact highest?_eq_some_iff
  | range r => exact highest?_eq_some_iff

/-- No version is found exactly if there is nothing for the query. -/
theorem pick?_eq_none_iff : p.pick? q = none ↔ q.PicksNothing p := by
  cases q with
  | tag name => exact Option.bind_eq_none_iff
  | exact w => exact highest?_eq_none_iff
  | range r => exact highest?_eq_none_iff

/-- What a query picks was read from a published text. -/
theorem Picks.exists_read (h : q.Picks p v) :
    ∃ s : String, Version.read? s.toList = some v := by
  cases q with
  | tag name => exact h.imp fun _ hs => hs.2
  | exact w => exact h.1.read.imp fun _ hs => hs.2
  | range r => exact h.1.read.imp fun _ hs => hs.2

/-! ### What makes no difference -/

/-- The second list is the first in any order, with copies, texts that are no version and
versions that the query does not hold of put in. -/
def Padded (q : Query) (published published' : List String) : Prop :=
  ∃ extra, published'.Perm (published ++ extra) ∧
    ∀ s ∈ extra, s ∈ published ∨ ∀ v, Version.read? s.toList = some v → q.holds v = false

/-- The same versions match, however the published texts are padded. -/
theorem Padded.matches_iff (h : q.Padded published published') :
    q.Matches published' v ↔ q.Matches published v := by
  obtain ⟨extra, hperm, hextra⟩ := h
  constructor
  · rintro ⟨⟨s, hs, hv⟩, hholds⟩
    refine ⟨⟨s, ?_, hv⟩, hholds⟩
    rcases List.mem_append.mp (hperm.mem_iff.mp hs) with hs | hs
    · exact hs
    · -- A text that was put in is a copy, because the query holds of its version.
      refine (hextra s hs).resolve_right fun hnever => ?_
      rw [hnever v hv] at hholds
      cases hholds
  · rintro ⟨⟨s, hs, hv⟩, hholds⟩
    exact ⟨⟨s, hperm.mem_iff.mpr (List.mem_append_left _ hs), hv⟩, hholds⟩

/-- So the highest of them is the same. -/
theorem Padded.highest?_eq (h : q.Padded published published') :
    q.highest? published' = q.highest? published := by
  refine Version.highest?_congr fun v => ?_
  rw [mem_candidates, mem_candidates, h.matches_iff]

/-- So the version that is picked is the same, if the dist-tags are. -/
theorem Padded.pick?_eq (h : q.Padded p.versions p'.versions) (htags : p'.tags = p.tags) :
    p'.pick? q = p.pick? q := by
  cases q with
  | tag name => rw [Published.pick?, Published.pick?, htags]
  | exact w => exact h.highest?_eq
  | range r => exact h.highest?_eq

end Query

/-! ### Searches -/

namespace Resolve

open Dialogue

/-- What a registry answers when it is asked for a package. -/
def answered {σ : Type} (h : Handler Call.Reply σ) (s : σ) (package : String) :
    Except Fault (Option Published) :=
  (h.answer (.published package) s).1

/-- What comes of a search. -/
def searched {σ : Type} (h : Handler Call.Reply σ) (s : σ) (package query : String) :
    Except Fault Version :=
  ((highest package query).run h s).1

variable {package query : String} {q : Query}

/-- A version is selected exactly if the package was found and the query picks it. -/
theorem selected_eq_ok_iff {found : Option Published} {v : Version} :
    selected package query q found = .ok v ↔ ∃ p, found = some p ∧ q.Picks p v := by
  unfold selected
  cases found with
  | none => simp
  | some p =>
    simp only [Option.some.injEq, exists_eq_left', ← Query.pick?_eq_some_iff]
    cases p.pick? q with
    | none => simp
    | some w => simp

/-- Nothing is selected exactly if the package was not found, or has nothing for the query. -/
theorem selected_eq_error_iff {found : Option Published} {fault : Fault} :
    selected package query q found = .error fault ↔
      fault = .noMatch package query ∧ (found = none ∨ ∃ p, found = some p ∧ q.PicksNothing p) := by
  unfold selected
  cases found with
  | none => simp [eq_comm]
  | some p =>
    simp only [Option.some.injEq, exists_eq_left', ← Query.pick?_eq_none_iff, reduceCtorEq,
      false_or]
    cases p.pick? q with
    | none => simp [eq_comm]
    | some w => simp

/-- A search for a query asks once, and ends with what the query makes of the answer. -/
theorem course_highest (hquery : Query.parse? query = some q) (es : List (Exchange Call.Reply))
    (r : Except Fault Version) :
    (highest package query).Course es r ↔
      ∃ answer : Except Fault (Option Published),
        es = [⟨.published package, answer⟩] ∧ r = answer >>= selected package query q := by
  unfold highest
  rw [hquery]
  show (call (Call.published package) >>= _).Course es r ↔ _
  simp only [course_call_bind, course_demand]
  constructor
  · rintro ⟨answer, _, rfl, rfl, rfl⟩
    exact ⟨answer, rfl, rfl⟩
  · rintro ⟨answer, rfl, rfl⟩
    exact ⟨answer, _, rfl, rfl, rfl⟩

/-- A search that finds a version has asked the registry for the package, and its query picks
the version from the answer. -/
theorem course_highest_ok {es : List (Exchange Call.Reply)} {v : Version}
    (h : (highest package query).Course es (.ok v)) :
    ∃ q p, Query.parse? query = some q ∧ es = [⟨.published package, .ok (some p)⟩] ∧
      q.Picks p v := by
  cases hquery : Query.parse? query with
  | none =>
    unfold highest at h
    rw [hquery] at h
    cases h
  | some q =>
    obtain ⟨answer, rfl, hanswer⟩ := (course_highest hquery _ _).mp h
    obtain ⟨found, rfl, hselected⟩ := bind_eq_ok.mp hanswer.symm
    obtain ⟨p, rfl, hpicks⟩ := selected_eq_ok_iff.mp hselected
    exact ⟨q, p, rfl, rfl, hpicks⟩

/-- A text that is no query finds nothing, and no registry is asked. -/
theorem searched_of_not_query {σ : Type} (h : Handler Call.Reply σ) (s : σ)
    (hquery : Query.parse? query = none) :
    searched h s package query = .error (.noMatch package query) := by
  unfold searched highest
  rw [hquery]
  rfl

/-- A search ends with what its query makes of the one answer. -/
theorem searched_of_query {σ : Type} (h : Handler Call.Reply σ) (s : σ)
    (hquery : Query.parse? query = some q) :
    searched h s package query = answered h s package >>= selected package query q := by
  unfold searched highest
  rw [hquery]
  exact run_demand h _ _

/-- A search finds a version exactly if its query is one, the registry knows the package, and the
query picks the version. -/
theorem searched_eq_ok_iff {σ : Type} (h : Handler Call.Reply σ) (s : σ) {v : Version} :
    searched h s package query = .ok v ↔
      ∃ q p, Query.parse? query = some q ∧ answered h s package = .ok (some p) ∧ q.Picks p v := by
  cases hquery : Query.parse? query with
  | none => simp [searched_of_not_query h s hquery]
  | some q =>
    rw [searched_of_query h s hquery, bind_eq_ok]
    simp only [selected_eq_ok_iff, Option.some.injEq, exists_eq_left', exists_and_left]
    constructor
    · rintro ⟨_, hanswer, p, rfl, hpicks⟩
      exact ⟨p, hanswer, hpicks⟩
    · rintro ⟨p, hanswer, hpicks⟩
      exact ⟨_, hanswer, p, rfl, hpicks⟩

/-- A search fails with the fault of the registry, or because nothing matches. -/
theorem searched_eq_error_iff {σ : Type} (h : Handler Call.Reply σ) (s : σ) {fault : Fault} :
    searched h s package query = .error fault ↔
      ((∃ q, Query.parse? query = some q) ∧ answered h s package = .error fault) ∨
      (fault = .noMatch package query ∧
        (Query.parse? query = none ∨ answered h s package = .ok none ∨
          ∃ q p, Query.parse? query = some q ∧ answered h s package = .ok (some p) ∧
            q.PicksNothing p)) := by
  cases hquery : Query.parse? query with
  | none => simp [searched_of_not_query h s hquery, eq_comm]
  | some q =>
    rw [searched_of_query h s hquery]
    cases hanswer : answered h s package with
    | error cause =>
      show Except.error cause = Except.error fault ↔ _
      simp
    | ok found =>
      show selected package query q found = .error fault ↔ _
      rw [selected_eq_error_iff]
      simp

/-- Two searches end alike when the query picks alike from the two answers. -/
theorem searched_congr {σ σ' : Type} {h : Handler Call.Reply σ} {s : σ}
    {h' : Handler Call.Reply σ'} {s' : σ'} {p p' : Published}
    (hquery : Query.parse? query = some q) (hp : answered h s package = .ok (some p))
    (hp' : answered h' s' package = .ok (some p')) (hpick : p'.pick? q = p.pick? q) :
    searched h' s' package query = searched h s package query := by
  rw [searched_of_query h' s' hquery, searched_of_query h s hquery, hp, hp']
  show selected package query q (some p') = selected package query q (some p)
  rw [selected, selected, hpick]

/-- What may come of a search, by what the registry answers. -/
structure SearchEnds {σ : Type} (h : Handler Call.Reply σ) (s : σ) (package query : String) :
    Prop where
  ok_iff : ∀ v, searched h s package query = .ok v ↔
    ∃ q p, Query.parse? query = some q ∧ answered h s package = .ok (some p) ∧ q.Picks p v
  error_iff : ∀ fault, searched h s package query = .error fault ↔
    ((∃ q, Query.parse? query = some q) ∧ answered h s package = .error fault) ∨
    (fault = .noMatch package query ∧
      (Query.parse? query = none ∨ answered h s package = .ok none ∨
        ∃ q p, Query.parse? query = some q ∧ answered h s package = .ok (some p) ∧
          q.PicksNothing p))
  steady : ∀ {σ' : Type} (h' : Handler Call.Reply σ') (s' : σ') (q : Query) (p p' : Published),
    Query.parse? query = some q → answered h s package = .ok (some p) →
    answered h' s' package = .ok (some p') → p'.tags = p.tags →
    q.Padded p.versions p'.versions → searched h' s' package query = searched h s package query

/-- Whatever a registry answers, a search ends as `SearchEnds` says. -/
theorem searchEnds_highest {σ : Type} (h : Handler Call.Reply σ) (s : σ)
    (package query : String) : SearchEnds h s package query where
  ok_iff _ := searched_eq_ok_iff h s
  error_iff _ := searched_eq_error_iff h s
  steady _ _ _ _ _ hquery hp hp' htags hpadded :=
    searched_congr hquery hp hp' (hpadded.pick?_eq htags)

end Resolve

end FrameworkUpgrade
