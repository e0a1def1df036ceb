import FrameworkUpgrade.Proofs.Codemod.Window
import Mathlib.Data.List.Forall2

/-!
# `FrameworkUpgrade.Proofs.Codemod.Validation`: which entries make a catalog

Entries are checked in one pass, each against the identifiers that have occurred and against the
one codemod before it. `ofEntries_exact` says what the pass comes to, for every list of entries:

* it succeeds when the list is `Acceptable`: no identifier occurs at two positions, each text is a
  version, and of no two positions the later has the older version. The catalog then holds the
  codemods that the entries list, one for each and in their order;
* else it blames the `Culprit`: the first entry with which the list up to it is no longer
  acceptable. The fault is that of the first check which this entry fails, of identifier, version
  and order in turn (`Blames`).

`Held` is the invariant of the pass. It ties the identifiers and the codemod that are carried along
to the entries that were read. One look at the last of them is enough because those before it are
in order, and the order of versions is transitive (`Acceptable.notAfter`).
-/

set_option autoImplicit false

namespace FrameworkUpgrade

namespace CodemodEntry

/-- The codemod that an entry lists. -/
structure Lists (e : CodemodEntry) (c : Codemod) : Prop where
  id : c.id = e.id
  title : c.title = e.title
  version : Version.parse e.version = .ok c.introduced

/-- An entry that may stand at any place before another, if both have a version. -/
def NotAfter (a b : CodemodEntry) : Prop :=
  ∀ v w, Version.parse a.version = .ok v → Version.parse b.version = .ok w → v ≤ w

/-- The order of entries is transitive as long as the middle one has a version: without one it is
not after any entry, and no entry is after it. -/
theorem NotAfter.trans {a b c : CodemodEntry} (hb : ∃ v, Version.parse b.version = .ok v)
    (hab : a.NotAfter b) (hbc : b.NotAfter c) : a.NotAfter c := by
  obtain ⟨v, hv⟩ := hb
  intro u w hu hw
  exact Std.le_trans (hab u v hu hv) (hbc v w hv hw)

end CodemodEntry

namespace Catalog

open CodemodEntry (Lists NotAfter)

/-! ### Acceptable entries -/

/-- Entries that a catalog can be made of. Identifiers and versions are compared over every two
positions. -/
structure Acceptable (es : List CodemodEntry) : Prop where
  distinct : es.Pairwise fun a b => a.id ≠ b.id
  versions : ∀ e ∈ es, ∃ v, Version.parse e.version = .ok v
  ordered : es.Pairwise NotAfter

/-- A list without entries is acceptable. -/
theorem acceptable_nil : Acceptable [] := ⟨.nil, nofun, .nil⟩

/-- One more entry keeps a list acceptable when it is compared with all before it. -/
theorem acceptable_concat_iff {front : List CodemodEntry} {e : CodemodEntry} :
    Acceptable (front ++ [e]) ↔
      Acceptable front ∧ (∀ a ∈ front, a.id ≠ e.id) ∧ (∃ v, Version.parse e.version = .ok v) ∧
        ∀ a ∈ front, a.NotAfter e := by
  constructor
  · rintro ⟨hdistinct, hversions, hordered⟩
    obtain ⟨hdistinct, -, hid⟩ := List.pairwise_append.mp hdistinct
    obtain ⟨hordered, -, hafter⟩ := List.pairwise_append.mp hordered
    obtain ⟨hversions, hversion⟩ := List.forall_mem_append.mp hversions
    exact ⟨⟨hdistinct, hversions, hordered⟩, fun a ha => hid a ha e List.mem_cons_self,
      hversion e List.mem_cons_self, fun a ha => hafter a ha e List.mem_cons_self⟩
  · rintro ⟨⟨hdistinct, hversions, hordered⟩, hid, hversion, hafter⟩
    refine ⟨?_, ?_, ?_⟩
    · refine List.pairwise_append.mpr ⟨hdistinct, List.pairwise_singleton _ _, fun a ha => ?_⟩
      exact List.forall_mem_singleton.mpr (hid a ha)
    · exact List.forall_mem_append.mpr ⟨hversions, List.forall_mem_singleton.mpr hversion⟩
    · refine List.pairwise_append.mpr ⟨hordered, List.pairwise_singleton _ _, fun a ha => ?_⟩
      exact List.forall_mem_singleton.mpr (hafter a ha)

/-- What is accepted as a whole is accepted up to any place. -/
theorem Acceptable.of_front {front es : List CodemodEntry} (h : Acceptable es)
    (hfront : front <+: es) : Acceptable front where
  distinct := h.distinct.sublist hfront.sublist
  versions e he := h.versions e (hfront.mem he)
  ordered := h.ordered.sublist hfront.sublist

/-- What may follow the last of acceptable entries may follow each of them. -/
theorem Acceptable.notAfter {front : List CodemodEntry} {p e : CodemodEntry}
    (h : Acceptable (front ++ [p])) (hp : p.NotAfter e) : ∀ a ∈ front ++ [p], a.NotAfter e := by
  obtain ⟨-, -, hversion, hbefore⟩ := acceptable_concat_iff.mp h
  refine List.forall_mem_append.mpr ⟨fun a ha => ?_, List.forall_mem_singleton.mpr hp⟩
  exact (hbefore a ha).trans hversion hp

/-! ### What is blamed -/

/-- The fault of an entry behind acceptable ones. An identifier that has occurred goes before a
text that is no version, and this goes before a version older than the one in front. -/
inductive Blames (front : List CodemodEntry) (e : CodemodEntry) : CatalogFault → Prop where
  | duplicate {a : CodemodEntry} (ha : a ∈ front) (hid : a.id = e.id) :
      Blames front e (.duplicate e.id)
  | invalidVersion {cause : Version.Fault} (hnew : ∀ a ∈ front, a.id ≠ e.id)
      (hversion : Version.parse e.version = .error cause) :
      Blames front e (.invalidVersion e.id e.version cause)
  | outOfOrder {before : List CodemodEntry} {p : CodemodEntry} {v w : Version}
      (hnew : ∀ a ∈ front, a.id ≠ e.id) (hversion : Version.parse e.version = .ok v)
      (hlast : front = before ++ [p]) (hprevious : Version.parse p.version = .ok w)
      (holder : v < w) : Blames front e (.outOfOrder e.id v p.id w)

/-- The entry at a position is the first with which the entries up to it are not acceptable. -/
structure Culprit (es : List CodemodEntry) (i : Nat) (e : CodemodEntry) : Prop where
  entry : es[i]? = some e
  before : Acceptable (es.take i)
  upTo : ¬ Acceptable (es.take (i + 1))
  first : ∀ j < i, ¬ (Acceptable (es.take j) ∧ ¬ Acceptable (es.take (j + 1)))

/-! ### One entry -/

/-- What is known when the entries `front` were accepted. -/
structure Held (front : List CodemodEntry) (seen : List String) (previous : Option Codemod) :
    Prop where
  acceptable : Acceptable front
  seen : ∀ id, id ∈ seen ↔ ∃ a ∈ front, a.id = id
  last : Option.Rel Lists front.getLast? previous

/-- Before the first entry no identifier is seen and there is no codemod before. -/
theorem held_nil : Held [] [] none where
  acceptable := acceptable_nil
  seen := by simp
  last := .none

section Entry

variable {front : List CodemodEntry} {seen : List String} {previous : Option Codemod}
  {e : CodemodEntry} {c : Codemod}

/-- An entry that is accepted leaves its own identifier and its own codemod for the next one. -/
theorem Held.concat (h : Held front seen previous) (hfront : Acceptable (front ++ [e]))
    (hc : e.Lists c) : Held (front ++ [e]) (e.id :: seen) (some c) where
  acceptable := hfront
  seen id := by
    rw [List.mem_cons, h.seen]
    simp only [List.mem_append, List.mem_singleton]
    constructor
    · rintro (rfl | ⟨a, ha, rfl⟩)
      · exact ⟨e, .inr rfl, rfl⟩
      · exact ⟨a, .inl ha, rfl⟩
    · rintro ⟨a, ha | rfl, rfl⟩
      · exact .inr ⟨a, ha, rfl⟩
      · exact .inl rfl
  last := by
    rw [List.getLast?_concat]
    exact .some hc

/-- The identifiers that are remembered are those of the entries before. -/
theorem Held.not_mem_seen_iff (h : Held front seen previous) :
    e.id ∉ seen ↔ ∀ a ∈ front, a.id ≠ e.id := by
  rw [h.seen]
  simp

/-- The codemod that is carried along decides for all entries that were accepted. -/
theorem Held.notAfter_iff (h : Held front seen previous) {v : Version}
    (hv : Version.parse e.version = .ok v) :
    (∀ a ∈ front, a.NotAfter e) ↔ ∀ p ∈ previous, p.introduced ≤ v := by
  obtain ⟨hacceptable, -, hlast⟩ := h
  rcases List.eq_nil_or_concat' front with rfl | ⟨before, a, rfl⟩
  · cases hlast
    simp
  · rw [List.getLast?_concat] at hlast
    obtain @⟨_, p, hp⟩ := hlast
    constructor
    · rintro hafter _ ⟨⟩
      exact hafter a (List.mem_append_right _ List.mem_cons_self) _ _ hp.version hv
    · intro hle
      refine hacceptable.notAfter fun u w hu hw => ?_
      obtain rfl : p.introduced = u := Except.ok.inj (hp.version.symm.trans hu)
      obtain rfl : v = w := Except.ok.inj (hv.symm.trans hw)
      exact hle p rfl

/-- An entry passes when the list with it is acceptable, and comes to the codemod it lists. -/
theorem Held.checkEntry_eq_ok_iff (h : Held front seen previous) :
    checkEntry seen previous e = .ok c ↔ Acceptable (front ++ [e]) ∧ e.Lists c := by
  rw [acceptable_concat_iff, ← h.not_mem_seen_iff]
  unfold checkEntry
  constructor
  · intro hc
    split at hc
    · cases hc
    rename_i hseen
    split at hc
    · cases hc
    rename_i v hv
    -- Two checks are passed; the third is only made where there is a codemod before.
    have hpasses : c = ⟨e.id, e.title, v⟩ ∧ ∀ p ∈ previous, p.introduced ≤ v := by
      split at hc
      · cases hc
        exact ⟨rfl, nofun⟩
      · split at hc
        · cases hc
        · rename_i p hnewer
          cases hc
          rw [Version.isNewer_iff, Std.not_lt] at hnewer
          refine ⟨rfl, ?_⟩
          rintro _ ⟨⟩
          exact hnewer
    obtain ⟨rfl, hprevious⟩ := hpasses
    exact ⟨⟨h.acceptable, hseen, ⟨v, hv⟩, (h.notAfter_iff hv).mpr hprevious⟩, rfl, rfl, hv⟩
  · rintro ⟨⟨-, hseen, -, hafter⟩, hid, htitle, hv⟩
    have hprevious := (h.notAfter_iff hv).mp hafter
    have hc : (⟨e.id, e.title, c.introduced⟩ : Codemod) = c := by
      rw [← hid, ← htitle]
    rw [if_neg hseen, hv]
    cases previous with
    | none => exact congrArg _ hc
    | some p =>
      have hnewer : ¬ Version.isNewer p.introduced c.introduced = true := by
        rw [Version.isNewer_iff, Std.not_lt]
        exact hprevious p rfl
      exact (if_neg hnewer).trans (congrArg _ hc)

/-- An entry that does not pass has the fault that it is blamed for. -/
theorem Held.checkEntry_eq_error_iff (h : Held front seen previous) {fault : CatalogFault} :
    checkEntry seen previous e = .error fault ↔ Blames front e fault := by
  unfold checkEntry
  constructor
  -- One check is made after another, so the fault of one has those before it passed.
  · intro hfault
    split at hfault
    · rename_i hseen
      obtain ⟨a, ha, hid⟩ := (h.seen _).mp hseen
      cases hfault
      exact .duplicate ha hid
    rename_i hseen
    have hnew := h.not_mem_seen_iff.mp hseen
    split at hfault
    · rename_i cause hcause
      cases hfault
      exact .invalidVersion hnew hcause
    rename_i v hv
    have hlast := h.last
    split at hfault
    · cases hfault
    · split at hfault
      · rename_i p hnewer
        cases hfault
        rw [Version.isNewer_iff] at hnewer
        -- The codemod that is remembered is that of the last entry before.
        generalize hgetLast : front.getLast? = last at hlast
        obtain @⟨a, _, ha⟩ := hlast
        obtain ⟨before, hbefore⟩ := List.getLast?_eq_some_iff.mp hgetLast
        rw [ha.id]
        exact .outOfOrder hnew hv hbefore ha.version hnewer
      · cases hfault
  · rintro (⟨ha, hid⟩ | ⟨hnew, hcause⟩ | ⟨hnew, hv, rfl, hw, holder⟩)
    · rw [if_pos ((h.seen _).mpr ⟨_, ha, hid⟩)]
    · rw [if_neg (h.not_mem_seen_iff.mpr hnew), hcause]
    · have hlast := h.last
      rw [List.getLast?_concat] at hlast
      obtain @⟨_, p, hp⟩ := hlast
      obtain rfl := Except.ok.inj (hp.version.symm.trans hw)
      rw [if_neg (h.not_mem_seen_iff.mpr hnew), hv, ← hp.id]
      exact if_pos ((Version.isNewer_iff _ _).mpr holder)

end Entry

/-! ### A list of entries -/

/-- The codemod that an entry with a version lists. -/
theorem exists_lists {front : List CodemodEntry} {e : CodemodEntry}
    (h : Acceptable (front ++ [e])) : ∃ c, e.Lists c := by
  obtain ⟨-, -, ⟨v, hv⟩, -⟩ := acceptable_concat_iff.mp h
  exact ⟨⟨e.id, e.title, v⟩, rfl, rfl, hv⟩

/-- The entries up to and with one of a list are a front of it. -/
theorem concat_prefix_append (front : List CodemodEntry) (e : CodemodEntry)
    (es : List CodemodEntry) : front ++ [e] <+: front ++ e :: es :=
  ⟨es, by simp⟩

/-- The pass over further entries succeeds when the list with them is acceptable. -/
theorem Held.checkEntries_eq_ok_iff {front es : List CodemodEntry} {seen : List String}
    {previous : Option Codemod} {cs : List Codemod} (h : Held front seen previous) :
    checkEntries seen previous es = .ok cs ↔
      Acceptable (front ++ es) ∧ List.Forall₂ Lists es cs := by
  -- Each entry that passes joins those that were accepted, so these are general.
  induction es generalizing front seen previous cs with
  | nil =>
    rw [List.append_nil, List.forall₂_nil_left_iff]
    constructor
    · rintro ⟨⟩
      exact ⟨h.acceptable, rfl⟩
    · rintro ⟨-, rfl⟩
      rfl
  | cons e es ih =>
    have happend : front ++ e :: es = front ++ [e] ++ es := by simp
    constructor
    · intro hcs
      obtain ⟨c, hc, hcs⟩ := bind_eq_ok.mp hcs
      obtain ⟨rest, hrest, ⟨⟩⟩ := bind_eq_ok.mp hcs
      obtain ⟨hfront, hlists⟩ := h.checkEntry_eq_ok_iff.mp hc
      obtain ⟨hacceptable, hrest⟩ := (ih (h.concat hfront hlists)).mp hrest
      exact ⟨happend ▸ hacceptable, .cons hlists hrest⟩
    · rintro ⟨hacceptable, hlists⟩
      have hfront := hacceptable.of_front (concat_prefix_append front e es)
      obtain ⟨c, rest, hc, hrest, rfl⟩ := List.forall₂_cons_left_iff.mp hlists
      have hcs := (ih (h.concat hfront hc)).mpr ⟨happend ▸ hacceptable, hrest⟩
      exact bind_eq_ok.mpr ⟨c, h.checkEntry_eq_ok_iff.mpr ⟨hfront, hc⟩,
        bind_eq_ok.mpr ⟨rest, hcs, rfl⟩⟩

/-- The pass over further entries fails at the first of them that is blamed, behind acceptable
ones. -/
theorem Held.checkEntries_eq_error_iff {front es : List CodemodEntry} {seen : List String}
    {previous : Option Codemod} {fault : CatalogFault} (h : Held front seen previous) :
    checkEntries seen previous es = .error fault ↔
      ∃ middle e back, es = middle ++ e :: back ∧ Acceptable (front ++ middle) ∧
        Blames (front ++ middle) e fault := by
  induction es generalizing front seen previous with
  | nil =>
    constructor
    · nofun
    · rintro ⟨middle, e, back, hes, -⟩
      simp at hes
  | cons e es ih =>
    constructor
    · intro hfault
      rcases bind_eq_error.mp hfault with hfault | ⟨c, hc, hfault⟩
      · refine ⟨[], e, es, rfl, ?_⟩
        rw [List.append_nil]
        exact ⟨h.acceptable, h.checkEntry_eq_error_iff.mp hfault⟩
      · obtain ⟨hfront, hlists⟩ := h.checkEntry_eq_ok_iff.mp hc
        rcases bind_eq_error.mp hfault with hfault | ⟨rest, -, ⟨⟩⟩
        obtain ⟨middle, d, back, rfl, hmiddle, hblames⟩ :=
          (ih (h.concat hfront hlists)).mp hfault
        rw [List.append_assoc] at hmiddle hblames
        exact ⟨e :: middle, d, back, rfl, hmiddle, hblames⟩
    · rintro ⟨middle, d, back, hes, hmiddle, hblames⟩
      cases middle with
      | nil =>
        obtain ⟨rfl, rfl⟩ := List.cons.inj hes
        rw [List.append_nil] at hblames
        exact bind_eq_error.mpr (.inl (h.checkEntry_eq_error_iff.mpr hblames))
      | cons a middle =>
        obtain ⟨rfl, rfl⟩ := List.cons.inj hes
        -- The first entry passes, since the entries up to the blamed one are acceptable.
        have hfront := hmiddle.of_front (concat_prefix_append front e middle)
        obtain ⟨c, hc⟩ := exists_lists hfront
        rw [List.append_cons] at hmiddle hblames
        have hrest := (ih (h.concat hfront hc)).mpr ⟨middle, d, back, rfl, hmiddle, hblames⟩
        exact bind_eq_error.mpr (.inr ⟨c, h.checkEntry_eq_ok_iff.mpr ⟨hfront, hc⟩,
          bind_eq_error.mpr (.inl hrest)⟩)

/-! ### Catalogs -/

/-- A catalog is made exactly of acceptable entries, with a codemod for each of them in its
place. -/
theorem ofEntries_eq_ok_iff {es : List CodemodEntry} {c : Catalog} :
    ofEntries es = .ok c ↔ Acceptable es ∧ List.Forall₂ Lists es c.codemods := by
  refine Iff.trans ?_ held_nil.checkEntries_eq_ok_iff
  constructor
  · intro h
    obtain ⟨cs, hcs, ⟨⟩⟩ := bind_eq_ok.mp h
    exact hcs
  · intro h
    exact bind_eq_ok.mpr ⟨c.codemods, h, rfl⟩

/-- A fault is that of an entry with acceptable ones before it, and that entry is to blame. -/
theorem ofEntries_eq_error_iff {es : List CodemodEntry} {fault : CatalogFault} :
    ofEntries es = .error fault ↔
      ∃ front e back, es = front ++ e :: back ∧ Acceptable front ∧ Blames front e fault := by
  refine Iff.trans ?_ held_nil.checkEntries_eq_error_iff
  constructor
  · intro h
    rcases bind_eq_error.mp h with h | ⟨cs, -, ⟨⟩⟩
    exact h
  · intro h
    exact bind_eq_error.mpr (.inl h)

/-- An entry that is blamed makes the list up to it unacceptable. -/
theorem Blames.not_acceptable {front : List CodemodEntry} {e : CodemodEntry}
    {fault : CatalogFault} (h : Blames front e fault) : ¬ Acceptable (front ++ [e]) := by
  rw [acceptable_concat_iff]
  rintro ⟨-, hid, ⟨u, hu⟩, hafter⟩
  cases h with
  | duplicate ha heq => exact hid _ ha heq
  | invalidVersion _ hcause => simp [hcause] at hu
  | outOfOrder _ hv hlast hw holder =>
    subst hlast
    have hp := hafter _ (List.mem_append_right _ List.mem_cons_self)
    exact Std.not_le.mpr holder (hp _ _ hw hv)

/-- A list that comes to no catalog is not acceptable. -/
theorem exists_ofEntries_iff {es : List CodemodEntry} :
    (∃ c, ofEntries es = .ok c) ↔ Acceptable es := by
  constructor
  · rintro ⟨c, hc⟩
    exact (ofEntries_eq_ok_iff.mp hc).1
  · intro hacceptable
    cases h : ofEntries es with
    | ok c => exact ⟨c, rfl⟩
    | error fault =>
      obtain ⟨front, e, back, rfl, -, hblames⟩ := ofEntries_eq_error_iff.mp h
      have hfront := hacceptable.of_front (concat_prefix_append front e back)
      exact absurd hfront hblames.not_acceptable

/-- An entry behind acceptable ones that makes the list up to it unacceptable is the culprit. -/
theorem culprit_of_split {front : List CodemodEntry} {e : CodemodEntry} (back : List CodemodEntry)
    (hfront : Acceptable front) (he : ¬ Acceptable (front ++ [e])) :
    Culprit (front ++ e :: back) front.length e where
  entry := by simp
  before := by rwa [List.take_left]
  upTo := by
    rwa [List.append_cons, List.take_left' (by simp)]
  first j hj := by
    rintro ⟨-, hj'⟩
    refine hj' ?_
    rw [List.take_append_of_le_length (by omega)]
    exact hfront.of_front (List.take_prefix _ _)

/-- The pass over a list of entries decides exactly whether they are acceptable. If they are, the
catalog holds what they list, in their order. If not, the fault is that of the culprit behind the
acceptable entries before it. -/
theorem ofEntries_exact (es : List CodemodEntry) :
    ((∃ c, ofEntries es = .ok c) ↔ Acceptable es) ∧
    (∀ c, ofEntries es = .ok c ↔ Acceptable es ∧ List.Forall₂ Lists es c.codemods) ∧
    ∀ fault, ofEntries es = .error fault ↔
      ∃ i e, Culprit es i e ∧ Blames (es.take i) e fault := by
  refine ⟨exists_ofEntries_iff, fun c => ofEntries_eq_ok_iff, fun fault => ?_⟩
  rw [ofEntries_eq_error_iff]
  constructor
  · rintro ⟨front, e, back, rfl, hfront, hblames⟩
    refine ⟨front.length, e, culprit_of_split back hfront hblames.not_acceptable, ?_⟩
    rwa [List.take_left]
  · rintro ⟨i, e, hculprit, hblames⟩
    exact ⟨es.take i, e, es.drop (i + 1), eq_take_append_cons_drop hculprit.entry,
      hculprit.before, hblames⟩

/-- The third entry repeats an identifier and is older than the second. The identifier counts. -/
example : ofEntries [⟨"a", "A", "14.0.0"⟩, ⟨"b", "B", "15.0.0"⟩, ⟨"a", "C", "14.1.0"⟩] =
    .error (.duplicate "a") := by
  decide

end Catalog

end FrameworkUpgrade
