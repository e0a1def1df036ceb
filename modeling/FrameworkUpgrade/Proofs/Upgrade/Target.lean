import FrameworkUpgrade.Proofs.Range.Query
import FrameworkUpgrade.Proofs.Upgrade.Search
import FrameworkUpgrade.Upgrade.Rehearsal

/-!
# `FrameworkUpgrade.Proofs.Upgrade.Target`: from a revision to a release

A revision is resolved by asking for one document. `Inquiry` says what is asked, by the query
that the revision is: an exact version is the key of its document in its one spelling, a
dist-tag is the key as it stands without the blanks around it, and for a range the published
list is asked for first. The greatest version of the list that the range holds of is the key,
and it stands in the list as the same text. Without such a version there is no document.

`targetEnds_target` states for every registry that a revision becomes the target which the
document describes, or a fault of the revision, and no other fault.
-/

set_option autoImplicit false

namespace FrameworkUpgrade

open Dialogue

/-- Whether a call asks for the document of a release. -/
def Call.isRelease : Call → Bool
  | .release _ _ => true
  | _ => false

/-! ### Documents -/

/-- A document has a version that can be read and a table of peers, and the target has these
and the other table of the document. -/
structure Release.Describes (document : Release) (t : Target) : Prop where
  version : ∃ raw, document.version = some raw ∧ Version.read? raw.toList = some t.version
  peers : document.peers = some t.peers
  dev : document.dev = t.dev

/-- A target is made of a document exactly if the document describes it. -/
theorem Release.target?_eq_ok_iff {document : Release} {t : Target} :
    document.target? = .ok t ↔ document.Describes t := by
  unfold Release.target?
  constructor
  · intro h
    split at h
    · cases h
    · rename_i raw hversion
      split at h
      · cases h
      · rename_i v hparse
        split at h
        · cases h
        · rename_i peers hpeers
          cases h
          exact ⟨⟨raw, hversion, toOption_eq_some.mpr hparse⟩, hpeers, rfl⟩
  · rintro ⟨⟨raw, hversion, hread⟩, hpeers, hdev⟩
    have hparse : Version.parse raw = .ok t.version := toOption_eq_some.mp hread
    simp only [hversion, hparse, hpeers, hdev]

namespace Resolve

variable {package token : String} {q : Query} {es : List (Exchange Call.Reply)}

/-- A target comes of an answer exactly if the answer is a document that describes it. -/
theorem targetOf_eq_ok_iff {answer : Except Fault (Option Release)} {t : Target} :
    targetOf token answer = .ok t ↔ ∃ document, answer = .ok (some document) ∧
      document.Describes t := by
  unfold targetOf
  split
  · simp
  · simp
  · rename_i document
    simp only [Except.ok.injEq, Option.some.injEq, exists_eq_left',
      ← Release.target?_eq_ok_iff]
    cases document.target? with
    | error cause => simp
    | ok target => simp

/-- Whatever an answer is, only faults of the revision come of it. -/
theorem targetOf_error {answer : Except Fault (Option Release)} {fault : Fault}
    (h : targetOf token answer = .error fault) : ∃ cause, fault = .revision token cause := by
  unfold targetOf at h
  split at h
  · cases h
    exact ⟨_, rfl⟩
  · cases h
    exact ⟨_, rfl⟩
  · split at h
    · cases h
      exact ⟨_, rfl⟩
    · cases h

/-! ### What is asked about a revision -/

/-- What is asked about a revision, by the query that it is, and the answer to the question
for a document when there is one. -/
inductive Inquiry (package token : String) :
    Option Query → List (Exchange Call.Reply) → Option (Except Fault (Option Release)) → Prop where
  | nothing : Inquiry package token none [] none
  | exact (v : Version) (canonical : v.IsCanonical) (answer : Except Fault (Option Release)) :
    Inquiry package token (some (.exact v)) [⟨.release package v.text, answer⟩] (some answer)
  | tag (name : String) (trimmed : name = String.ofList (Text.trim token.toList))
      (answer : Except Fault (Option Release)) :
    Inquiry package token (some (.tag name)) [⟨.release package name, answer⟩] (some answer)
  | range (r : Range) (p : Published) (key : String) (v : Version) (listed : key ∈ p.versions)
      (read : Version.read? key.toList = some v) (picks : (Query.range r).Picks p v)
      (answer : Except Fault (Option Release)) :
    Inquiry package token (some (.range r))
      [⟨.published package, .ok (some p)⟩, ⟨.release package key, answer⟩] (some answer)
  | unmatched (r : Range) (found : Except Fault (Option Published))
      (unpublished : ∀ p, found = .ok (some p) → (Query.range r).PicksNothing p) :
    Inquiry package token (some (.range r)) [⟨.published package, found⟩] none

/-- A key that is found is asked for, and the answer is that of the inquiry. -/
theorem inquiry_of_releaseKey_ok {key : String} (hquery : Query.parse? token = some q)
    (h : (releaseKey package token q).Course es (.ok key))
    (answer : Except Fault (Option Release)) :
    Inquiry package token (some q) (es ++ [⟨.release package key, answer⟩]) (some answer) := by
  cases q with
  | exact v =>
    obtain ⟨rfl, ⟨⟩⟩ := (course_done _ _ _).mp h
    exact .exact v (Query.isCanonical_of_exact hquery) answer
  | tag name =>
    obtain ⟨rfl, ⟨⟩⟩ := (course_done _ _ _).mp h
    exact .tag key (Query.parse?_eq_some hquery).2 answer
  | range r =>
    obtain ⟨v, front, _, rfl, hhighest, hkey⟩ := (course_bind_ok _ _ _ _).mp h
    obtain ⟨rfl, ⟨⟩⟩ := (course_pure _ _ _).mp hkey
    obtain ⟨q', p, hquery', rfl, hpicks⟩ :=
      course_highest_ok ((course_mapFault_ok _ _ _ _).mp hhighest)
    -- The search reads the text of the revision again, and as the same query.
    obtain rfl : Query.range r = q' := Option.some.inj (hquery.symm.trans hquery')
    obtain ⟨s, hs, hv⟩ := hpicks.1.read
    have htext : v.text = s := (Version.text_of_read? hv).1
    exact .range r p v.text v hpicks.1.mem_text (htext ▸ hv) hpicks answer

/-- Only a range can be without a key. Then nothing in the published list matches it, or the
list is not known. -/
theorem inquiry_of_releaseKey_error {fault : Fault} (hquery : Query.parse? token = some q)
    (h : (releaseKey package token q).Course es (.error fault)) :
    Inquiry package token (some q) es none ∧ ∃ cause, fault = .revision token cause := by
  cases q with
  | exact v => cases h
  | tag name => cases h
  | range r =>
    rcases (course_bind _ _ _ _).mp h with ⟨_, _, _, _, _, ⟨⟩⟩ | ⟨_, ⟨⟩, hhighest⟩
    obtain ⟨cause, rfl, hcourse⟩ := (course_mapFault_error _ _ _ _).mp hhighest
    obtain ⟨found, rfl, hfound⟩ := (course_highest hquery _ _).mp hcourse
    refine ⟨.unmatched r found fun p hp => ?_, _, rfl⟩
    subst hp
    have hselected : selected package token (.range r) (some p) = .error cause := hfound.symm
    rcases (selected_eq_error_iff.mp hselected).2 with hnone | ⟨_, ⟨⟩, hnothing⟩
    · cases hnone
    · exact hnothing

/-- Every resolution of a revision is an inquiry, and ends with what the answer describes. -/
theorem inquiry_of_course {r : Except Fault Target} (h : (target package token).Course es r) :
    ∃ answer, Inquiry package token (Query.parse? token) es answer ∧
      ((answer = none ∧ ∃ cause, r = .error (.revision token cause)) ∨
        ∃ reply, answer = some reply ∧ r = targetOf token reply) := by
  unfold target at h
  split at h
  · rename_i hquery
    obtain ⟨rfl, rfl⟩ := (course_fail _ _ _).mp h
    rw [hquery]
    exact ⟨none, .nothing, .inl ⟨rfl, _, rfl⟩⟩
  · rename_i q hquery
    rw [hquery]
    rcases (course_bind _ _ _ _).mp h with
      ⟨key, front, back, rfl, hkey, hback⟩ | ⟨fault, rfl, hkey⟩
    · obtain ⟨answer, _, rfl, hdemand⟩ := (course_call_bind _ _ _ _).mp hback
      obtain ⟨rfl, rfl⟩ := (course_demand _ _ _).mp hdemand
      exact ⟨some answer, inquiry_of_releaseKey_ok hquery hkey answer, .inr ⟨answer, rfl, rfl⟩⟩
    · obtain ⟨hinquiry, cause, rfl⟩ := inquiry_of_releaseKey_error hquery hkey
      exact ⟨none, hinquiry, .inl ⟨rfl, cause, rfl⟩⟩

/-- An inquiry asks for one release at most. -/
theorem Inquiry.countP_isRelease_le {query : Option Query}
    {answer : Option (Except Fault (Option Release))} (h : Inquiry package token query es answer) :
    es.countP (·.call.isRelease) ≤ 1 := by
  cases h <;> simp [Call.isRelease]

/-- The documents that stand under published texts state the versions that the texts are. -/
def StatesKeys (package : String) (es : List (Exchange Call.Reply)) : Prop :=
  ∀ p key document v, (⟨.published package, .ok (some p)⟩ : Exchange Call.Reply) ∈ es →
    key ∈ p.versions → Version.read? key.toList = some v →
    (⟨.release package key, .ok (some document)⟩ : Exchange Call.Reply) ∈ es →
    ∃ raw, document.version = some raw ∧ Version.read? raw.toList = some v

/-- What may come of a revision, by what is asked and answered. -/
structure TargetEnds (package token : String) (es : List (Exchange Call.Reply))
    (r : Except Fault Target) : Prop where
  fault : ∀ fault, r = .error fault → ∃ cause, fault = .revision token cause
  inquiry : ∃ answer, Inquiry package token (Query.parse? token) es answer ∧
    ∀ t, r = .ok t ↔ ∃ document, answer = some (.ok (some document)) ∧ document.Describes t
  once : es.countP (·.call.isRelease) ≤ 1
  range : ∀ range, Query.parse? token = some (.range range) → StatesKeys package es →
    ∀ t, r = .ok t → ∃ p, (⟨.published package, .ok (some p)⟩ : Exchange Call.Reply) ∈ es ∧
      (Query.range range).Picks p t.version

/-- The target of a range is the version that the range picks, when the document under the key
states the version of the key. -/
theorem Inquiry.picks {range : Range} {document : Release} {t : Target}
    (h : Inquiry package token (some (.range range)) es (some (.ok (some document))))
    (hkeys : StatesKeys package es) (hdescribes : document.Describes t) :
    ∃ p, (⟨.published package, .ok (some p)⟩ : Exchange Call.Reply) ∈ es ∧
      (Query.range range).Picks p t.version := by
  cases h with
  | range _ p key v hlisted hread hpicks =>
    obtain ⟨raw, hraw, hv⟩ := hkeys p key document v List.mem_cons_self hlisted hread
      (List.mem_cons_of_mem _ List.mem_cons_self)
    obtain ⟨raw', hraw', ht⟩ := hdescribes.version
    obtain rfl : raw = raw' := Option.some.inj (hraw.symm.trans hraw')
    obtain rfl : v = t.version := Option.some.inj (hv.symm.trans ht)
    exact ⟨p, List.mem_cons_self, hpicks⟩

/-- However the registry answers, the course of a resolution ends as described. -/
theorem targetEnds_of_course {r : Except Fault Target}
    (h : (target package token).Course es r) : TargetEnds package token es r := by
  obtain ⟨answer, hinquiry, hends⟩ := inquiry_of_course h
  have hok : ∀ t, r = .ok t ↔ ∃ document, answer = some (.ok (some document)) ∧
      document.Describes t := by
    intro t
    rcases hends with ⟨rfl, cause, rfl⟩ | ⟨reply, rfl, rfl⟩
    · simp
    · rw [targetOf_eq_ok_iff]
      simp
  refine ⟨fun fault hfault => ?_, ⟨answer, hinquiry, hok⟩, hinquiry.countP_isRelease_le, ?_⟩
  · rcases hends with ⟨rfl, cause, rfl⟩ | ⟨reply, rfl, rfl⟩
    · cases hfault
      exact ⟨cause, rfl⟩
    · exact targetOf_error hfault
  · intro range hrange hkeys t ht
    obtain ⟨document, rfl, hdescribes⟩ := (hok t).mp ht
    rw [hrange] at hinquiry
    exact hinquiry.picks hkeys hdescribes

/-- Whatever a registry answers, a revision comes to what `TargetEnds` says. -/
theorem targetEnds_target {σ : Type} (h : Handler Call.Reply σ) (s : σ)
    (package token : String) :
    TargetEnds package token ((target package token).exchanges h s)
      ((target package token).run h s).1 :=
  targetEnds_of_course (course_run h _ s)

/-- A registry whose list is in no order, and which has the document of one release. -/
def rangedRehearsal : Rehearsal :=
  { registry := {
      releases := [(("next", "15.0.3"), { version := some "15.0.3", peers := some [] })]
      packages := [("next", { versions := ["15.0.0", "16.0.0", "15.0.3", "canary", "14.2.5"] })] }
    installed := []
    manifest := ⟨[]⟩ }

/-- The target that is found for the range. -/
def rangedTarget : Target :=
  { version := { major := 15, minor := 0, patch := 3 }, peers := [], dev := [] }

/-- A range with a blank before it comes to the greatest version that it holds of. -/
theorem targetEnds_ranged :
    ((target "next" " ^15.0.0").run Rehearsal.handler rangedRehearsal).1 = .ok rangedTarget ∧
    ∃ range, Query.parse? " ^15.0.0" = some (.range range) ∧
      StatesKeys "next" ((target "next" " ^15.0.0").exchanges Rehearsal.handler rangedRehearsal) ∧
      ∃ p, (⟨.published "next", .ok (some p)⟩ : Exchange Call.Reply) ∈
          (target "next" " ^15.0.0").exchanges Rehearsal.handler rangedRehearsal ∧
        (Query.range range).Picks p rangedTarget.version := by
  have hrun : ((target "next" " ^15.0.0").run Rehearsal.handler rangedRehearsal).1 =
      .ok rangedTarget := by with_unfolding_all rfl
  have hasked : (target "next" " ^15.0.0").exchanges Rehearsal.handler rangedRehearsal =
      [⟨.published "next",
          .ok (some { versions := ["15.0.0", "16.0.0", "15.0.3", "canary", "14.2.5"] })⟩,
        ⟨.release "next" "15.0.3",
          .ok (some { version := some "15.0.3", peers := some [] })⟩] := by
    with_unfolding_all rfl
  have hquery : Query.parse? " ^15.0.0" =
      some (.range ⟨"^15.0.0", [[⟨.caret, 15, some 0, some 0, []⟩]]⟩) := by
    with_unfolding_all rfl
  -- The only document is under the key that it states.
  have hkeys : StatesKeys "next"
      ((target "next" " ^15.0.0").exchanges Rehearsal.handler rangedRehearsal) := by
    rw [hasked]
    rintro p key document v - - hread hdocument
    rcases List.mem_cons.mp hdocument with hpublished | hreleased
    · cases hpublished
    · cases List.mem_singleton.mp hreleased
      exact ⟨_, rfl, hread⟩
  exact ⟨hrun, _, hquery, hkeys, (targetEnds_target Rehearsal.handler rangedRehearsal "next"
    " ^15.0.0").range _ hquery hkeys _ hrun⟩

end Resolve

end FrameworkUpgrade
