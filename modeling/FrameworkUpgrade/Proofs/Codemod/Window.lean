import FrameworkUpgrade.Codemod.Catalog
import FrameworkUpgrade.Proofs.Outcome
import FrameworkUpgrade.Proofs.Version.Order

/-!
# `FrameworkUpgrade.Proofs.Codemod.Window`: the segment of a catalog

A catalog that comes from entries is `Ordered`: its versions do not fall, over any two of
its positions, and its identifiers are distinct. Each entry is compared with the one
before it alone, so the first half rests on the order of versions being transitive.

`bisect` counts the elements that satisfy a test when these come first, and in an ordered
catalog the codemods up to a version do. `window_eq_filter` follows: the segment between
two bisections holds exactly the codemods introduced after the one version and not after
the other, in the order of the catalog. `window_append` puts two segments with a common
end together, and `listing_eq_filter` says the same of a listing, one or both of whose bounds may
be open.
-/

set_option autoImplicit false

namespace FrameworkUpgrade

/-! ### Bisection -/

section Bisection

variable {α : Type} {p : α → Bool}

/-- The elements that satisfy `p` come before all others. -/
def Leading (p : α → Bool) (xs : List α) : Prop :=
  xs.Pairwise fun a b => p b = true → p a = true

/-- What leads in a list leads in every part of it, because the order of the elements stays. -/
theorem Leading.sublist {xs ys : List α} (h : Leading p ys) (hs : xs.Sublist ys) :
    Leading p xs :=
  List.Pairwise.sublist hs h

/-- What leads up to an element that satisfies `p` satisfies it too. -/
theorem Leading.all_of_append {front back : List α} {x : α}
    (h : Leading p (front ++ x :: back)) (hx : p x = true) : ∀ a ∈ front, p a = true := by
  intro a ha
  exact (List.pairwise_append.mp h).2.2 a ha x List.mem_cons_self hx

/-- What follows an element that fails `p` fails it too. -/
theorem Leading.not_of_append {front back : List α} {x : α}
    (h : Leading p (front ++ x :: back)) (hx : p x = false) :
    ∀ a ∈ x :: back, p a = false := by
  have hback := (List.pairwise_append.mp h).2.1
  intro a ha
  rcases List.mem_cons.mp ha with rfl | ha
  · exact hx
  · cases hp : p a with
    | false => rfl
    | true => rw [(List.pairwise_cons.mp hback).1 a ha hp] at hx; cases hx

/-- A list is what comes before a place, the element there and what comes behind. -/
theorem eq_take_append_cons_drop {xs : List α} {i : Nat} {x : α} (h : xs[i]? = some x) :
    xs = xs.take i ++ x :: xs.drop (i + 1) := by
  obtain ⟨hi, rfl⟩ := List.getElem?_eq_some_iff.mp h
  rw [← List.drop_eq_getElem_cons hi, List.take_append_drop]

/-- Bisection counts the elements that satisfy `p`. -/
theorem bisect_eq_countP {xs : List α} (h : Leading p xs) : bisect p xs = xs.countP p := by
  -- One case for each branch: nothing in the middle, a middle that satisfies `p`, and one
  -- that does not. What is cut away is counted as a whole or not at all.
  fun_induction bisect p xs with
  | case1 xs middle hnone =>
    -- The middle is a position of every list but the empty one.
    have hlength : xs.length = 0 := by
      have := List.getElem?_eq_none_iff.mp hnone
      omega
    rw [List.length_eq_zero_iff.mp hlength, List.countP_nil]
  | case2 xs middle x hsome hx ih =>
    have hsplit := eq_take_append_cons_drop hsome
    have hfront : (xs.take middle).countP p = middle := by
      rw [hsplit] at h
      rw [List.countP_eq_length.mpr (h.all_of_append hx), List.length_take]
      exact Nat.min_eq_left (Nat.div_le_self _ _)
    calc middle + 1 + bisect p (xs.drop (middle + 1))
        = middle + 1 + (xs.drop (middle + 1)).countP p := by
          rw [ih (h.sublist (List.drop_sublist _ _))]
      _ = (xs.take middle ++ x :: xs.drop (middle + 1)).countP p := by
          rw [List.countP_append, List.countP_cons_of_pos hx, hfront]
          omega
      _ = xs.countP p := by rw [← hsplit]
  | case3 xs middle x hsome hx ih =>
    have hsplit := eq_take_append_cons_drop hsome
    have hback : (x :: xs.drop (middle + 1)).countP p = 0 := by
      rw [hsplit] at h
      rw [List.countP_eq_zero]
      intro a ha
      rw [h.not_of_append (Bool.eq_false_iff.mpr hx) a ha]
      exact Bool.false_ne_true
    calc bisect p (xs.take middle)
        = (xs.take middle).countP p := ih (h.sublist (List.take_sublist _ _))
      _ = (xs.take middle ++ x :: xs.drop (middle + 1)).countP p := by
          rw [List.countP_append, hback, Nat.add_zero]
      _ = xs.countP p := by rw [← hsplit]

/-- The elements that satisfy `p` are what a count of them takes from the front. -/
theorem Leading.take_countP {xs : List α} (h : Leading p xs) :
    xs.take (xs.countP p) = xs.filter p := by
  induction xs with
  | nil => rfl
  | cons x xs ih =>
    obtain ⟨hx, hxs⟩ := List.pairwise_cons.mp h
    cases hp : p x with
    | true =>
      rw [List.countP_cons_of_pos hp, List.take_succ_cons, List.filter_cons_of_pos hp, ih hxs]
    | false =>
      have hnone : ∀ a ∈ xs, ¬ p a = true := by
        intro a ha hpa
        rw [hx a ha hpa] at hp
        cases hp
      rw [List.countP_cons_of_neg (by simp [hp]), List.filter_cons_of_neg (by simp [hp]),
        List.countP_eq_zero.mpr hnone, List.filter_eq_nil_iff.mpr hnone, List.take_zero]

/-- The elements that fail `p` are what a count of the others leaves. -/
theorem Leading.drop_countP {xs : List α} (h : Leading p xs) :
    xs.drop (xs.countP p) = xs.filter (! p ·) := by
  induction xs with
  | nil => rfl
  | cons x xs ih =>
    obtain ⟨hx, hxs⟩ := List.pairwise_cons.mp h
    cases hp : p x with
    | true =>
      rw [List.countP_cons_of_pos hp, List.drop_succ_cons, List.filter_cons_of_neg (by simp [hp]),
        ih hxs]
    | false =>
      have hnone : ∀ a ∈ x :: xs, p a = false := not_of_append (show Leading p ([] ++ _) from h) hp
      rw [List.countP_eq_zero.mpr (fun a ha => by simp [hnone a ha]), List.drop_zero,
        List.filter_eq_self.mpr (fun a ha => by simp [hnone a ha])]

/-- The elements that satisfy `p` and those that fail it make up the whole again. -/
theorem Leading.filter_append_filter_not {xs : List α} (h : Leading p xs) :
    xs.filter p ++ xs.filter (! p ·) = xs := by
  rw [← h.take_countP, ← h.drop_countP, List.take_append_drop]

end Bisection

/-! ### Ordered catalogs -/

namespace Catalog

/-- A catalog whose versions do not fall and whose identifiers are distinct. -/
structure Ordered (c : Catalog) : Prop where
  versions : c.codemods.Pairwise fun a b => a.introduced ≤ b.introduced
  ids : (c.codemods.map Codemod.id).Nodup

/-- What an accepted entry comes to, and how it stands to the entries before it. -/
theorem checkEntry_ok {seen : List String} {previous : Option Codemod} {e : CodemodEntry}
    {c : Codemod} (h : checkEntry seen previous e = .ok c) :
    e.id ∉ seen ∧ c.id = e.id ∧ ∀ p, previous = some p → p.introduced ≤ c.introduced := by
  unfold checkEntry at h
  split at h
  · cases h
  · rename_i hseen
    split at h
    · cases h
    · split at h
      · cases h
        exact ⟨hseen, rfl, nofun⟩
      · split at h
        · cases h
        · rename_i hnewer
          cases h
          refine ⟨hseen, rfl, ?_⟩
          rintro _ ⟨⟩
          rwa [Version.isNewer_iff, Std.not_lt] at hnewer

/-- Codemods from entries come after the codemod `previous`, do not fall in version, and
have new identifiers. -/
theorem checkEntries_ok {es : List CodemodEntry} {seen : List String}
    {previous : Option Codemod} {cs : List Codemod}
    (h : checkEntries seen previous es = .ok cs) :
    (∀ p, previous = some p → ∀ c ∈ cs, p.introduced ≤ c.introduced) ∧
    cs.Pairwise (fun a b => a.introduced ≤ b.introduced) ∧
    (∀ c ∈ cs, c.id ∉ seen) ∧ (cs.map Codemod.id).Nodup := by
  -- The entry just checked is the previous one of the next, so both it and the identifiers
  -- seen are general in the induction.
  induction es generalizing seen previous cs with
  | nil =>
    cases h
    simp
  | cons e es ih =>
    obtain ⟨c, hc, h⟩ := bind_eq_ok.mp h
    obtain ⟨rest, hcs, ⟨⟩⟩ := bind_eq_ok.mp h
    obtain ⟨hseen, hid, hprevious⟩ := checkEntry_ok hc
    obtain ⟨hafter, hpairwise, hnew, hnodup⟩ := ih hcs
    refine ⟨?_, ?_, ?_, ?_⟩
    · intro p hp d hd
      rcases List.mem_cons.mp hd with rfl | hd
      · exact hprevious p hp
      -- Only neighbours are compared. The rest is transitivity.
      · exact Std.le_trans (hprevious p hp) (hafter c rfl d hd)
    · exact List.pairwise_cons.mpr ⟨hafter c rfl, hpairwise⟩
    · intro d hd
      rcases List.mem_cons.mp hd with rfl | hd
      · rwa [hid]
      · exact fun hmem => hnew d hd (List.mem_cons_of_mem _ hmem)
    · rw [List.map_cons, List.nodup_cons]
      refine ⟨?_, hnodup⟩
      rw [hid, List.mem_map]
      rintro ⟨d, hd, heq⟩
      exact hnew d hd (heq ▸ List.mem_cons_self)

/-- A catalog that comes from entries is ordered. -/
theorem ordered_of_ofEntries {es : List CodemodEntry} {c : Catalog} (h : ofEntries es = .ok c) :
    c.Ordered := by
  obtain ⟨cs, hcs, ⟨⟩⟩ := bind_eq_ok.mp h
  obtain ⟨_, hpairwise, _, hnodup⟩ := checkEntries_ok hcs
  exact ⟨hpairwise, hnodup⟩

/-- A catalog has the identifiers of its entries. -/
theorem ids_checkEntries {es : List CodemodEntry} {seen : List String}
    {previous : Option Codemod} {cs : List Codemod}
    (h : checkEntries seen previous es = .ok cs) :
    cs.map Codemod.id = es.map CodemodEntry.id := by
  induction es generalizing seen previous cs with
  | nil =>
    cases h
    rfl
  | cons e es ih =>
    obtain ⟨c, hc, h⟩ := bind_eq_ok.mp h
    obtain ⟨rest, hcs, ⟨⟩⟩ := bind_eq_ok.mp h
    obtain ⟨_, hid, _⟩ := checkEntry_ok hc
    rw [List.map_cons, List.map_cons, ih hcs, hid]

/-- The codemods of a catalog have the identifiers of its entries, in their order. -/
theorem ids_ofEntries {es : List CodemodEntry} {c : Catalog} (h : ofEntries es = .ok c) :
    c.codemods.map Codemod.id = es.map CodemodEntry.id := by
  obtain ⟨cs, hcs, ⟨⟩⟩ := bind_eq_ok.mp h
  exact ids_checkEntries hcs

/-- The check that bisection makes is the order of versions. -/
theorem isUpTo_iff (v : Version) (c : Codemod) : isUpTo v c = true ↔ c.introduced ≤ v :=
  Iff.rfl

/-- The codemods up to a version come first in an ordered catalog. -/
theorem Ordered.leading {c : Catalog} (h : c.Ordered) (v : Version) :
    Leading (isUpTo v) c.codemods :=
  h.versions.imp fun hab hb => Std.le_trans hab hb

/-- The segment between two versions holds exactly the codemods introduced after the one
and not after the other. -/
theorem window_eq_filter {c : Catalog} (h : c.Ordered) (installed target : Version) :
    c.window installed target =
      c.codemods.filter fun m => installed < m.introduced ∧ m.introduced ≤ target := by
  unfold window
  split
  · rename_i hnewer
    rw [Version.isNewer_iff] at hnewer
    -- Codemods up to the installed version are also codemods up to the target.
    have hcount : c.codemods.countP (isUpTo installed) =
        (c.codemods.filter (isUpTo target)).countP (isUpTo installed) := by
      rw [List.countP_filter]
      refine List.countP_congr fun m _ => ?_
      rw [Bool.and_eq_true, isUpTo_iff, isUpTo_iff]
      exact ⟨fun hm => ⟨hm, Std.le_of_lt (Std.lt_of_le_of_lt hm hnewer)⟩, And.left⟩
    rw [bisect_eq_countP (h.leading target), bisect_eq_countP (h.leading installed),
      (h.leading target).take_countP, hcount,
      ((h.leading installed).sublist List.filter_sublist).drop_countP, List.filter_filter]
    refine List.filter_congr fun m _ => ?_
    rw [Bool.eq_iff_iff, Bool.and_eq_true, decide_eq_true_eq, isUpTo_iff, Bool.not_eq_true',
      Bool.eq_false_iff, ne_eq, isUpTo_iff, Std.not_le]
  · -- No codemod lies after the installed version and up to one that is not newer.
    rename_i hnewer
    rw [Version.isNewer_iff, Std.not_lt] at hnewer
    rw [eq_comm, List.filter_eq_nil_iff]
    intro m _ hm
    rw [decide_eq_true_eq] at hm
    exact Std.not_lt.mpr (Std.le_trans hm.2 hnewer) hm.1

/-- The end of a segment does not lie before its start, and not behind the catalog. -/
theorem Ordered.bisect_le {c : Catalog} (h : c.Ordered) {a b : Version} (hab : a ≤ b) :
    bisect (isUpTo a) c.codemods ≤ bisect (isUpTo b) c.codemods ∧
    bisect (isUpTo b) c.codemods ≤ c.codemods.length := by
  rw [bisect_eq_countP (h.leading a), bisect_eq_countP (h.leading b)]
  refine ⟨List.countP_mono_left fun m _ hm => ?_, List.countP_le_length⟩
  rw [isUpTo_iff] at hm ⊢
  exact Std.le_trans hm hab

/-- A listing holds exactly the codemods within the bounds that are given. Two bounds are looked
up by bisection, and one bound or none by a pass over the catalog. -/
theorem listing_eq_filter {c : Catalog} (h : c.Ordered) (after upTo : Option Version) :
    c.listing after upTo = c.codemods.filter fun m =>
      (∀ v ∈ after, v < m.introduced) ∧ ∀ v ∈ upTo, m.introduced ≤ v := by
  have hpass : (c.codemods.filter fun m => after.all fun v => !isUpTo v m).filter
      (fun m => upTo.all fun v => isUpTo v m) = c.codemods.filter fun m =>
        (∀ v ∈ after, v < m.introduced) ∧ ∀ v ∈ upTo, m.introduced ≤ v := by
    rw [List.filter_filter]
    refine List.filter_congr fun m _ => ?_
    have hafter : (after.all fun v => !isUpTo v m) = true ↔ ∀ v ∈ after, v < m.introduced := by
      -- Bisection is only used where both bounds are given.
      cases after with
      | none => simp
      | some v => simp [Bool.eq_false_iff, isUpTo_iff, Std.not_le]
    have hupTo : (upTo.all fun v => isUpTo v m) = true ↔ ∀ v ∈ upTo, m.introduced ≤ v := by
      cases upTo with
      | none => simp
      | some v => simp [isUpTo_iff]
    rw [Bool.eq_iff_iff, Bool.and_eq_true, decide_eq_true_eq, hafter, hupTo]
    exact And.comm
  cases after with
  | none => exact hpass
  | some installed =>
    cases upTo with
    | none => exact hpass
    | some target =>
      show c.window installed target = _
      rw [window_eq_filter h]
      simp

/-- The segment of a way over a version between its ends is the segment up to that version,
followed by the segment from there. -/
theorem window_append {c : Catalog} (h : c.Ordered) {a b d : Version} (hab : a ≤ b)
    (hbd : b ≤ d) : c.window a d = c.window a b ++ c.window b d := by
  rw [window_eq_filter h, window_eq_filter h, window_eq_filter h]
  -- The codemods up to `b` lead the catalog, so the catalog falls into them and the rest.
  refine (congrArg (List.filter _) (h.leading b).filter_append_filter_not).symm.trans ?_
  rw [List.filter_append, List.filter_filter, List.filter_filter]
  congr 1
  · refine List.filter_congr fun m _ => ?_
    rw [Bool.eq_iff_iff, Bool.and_eq_true, decide_eq_true_eq, decide_eq_true_eq, isUpTo_iff]
    constructor
    · rintro ⟨⟨ham, _⟩, hmb⟩
      exact ⟨ham, hmb⟩
    · rintro ⟨ham, hmb⟩
      exact ⟨⟨ham, Std.le_trans hmb hbd⟩, hmb⟩
  · refine List.filter_congr fun m _ => ?_
    rw [Bool.eq_iff_iff, Bool.and_eq_true, decide_eq_true_eq, decide_eq_true_eq,
      Bool.not_eq_true', Bool.eq_false_iff, ne_eq, isUpTo_iff, Std.not_le]
    constructor
    · rintro ⟨⟨_, hmd⟩, hbm⟩
      exact ⟨hbm, hmd⟩
    · rintro ⟨hbm, hmd⟩
      exact ⟨⟨Std.lt_of_le_of_lt hab hbm, hmd⟩, hbm⟩

end Catalog

end FrameworkUpgrade
