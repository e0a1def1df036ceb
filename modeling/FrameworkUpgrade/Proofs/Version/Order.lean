import FrameworkUpgrade.Version.Order

/-!
# `FrameworkUpgrade.Proofs.Version.Order`: the order of versions is total

The order of two versions is put together from the orders of their parts, and each of
these is total and transitive and takes no two parts for equal that differ. So it is with
the whole. `Version` then has the laws of the standard library for `<` and `≤`, whatever
pre-releases and build metadata there are.
-/

set_option autoImplicit false

namespace FrameworkUpgrade

open Std (LawfulEqCmp LawfulEqOrd TransCmp TransOrd)

namespace Identifier

/-- Two texts of one length that are equal up to their leading zeros are equal. -/
theorem eq_of_dropWhile_zeros {i j : List Char}
    (hrest : i.dropWhile (· == '0') = j.dropWhile (· == '0')) (hlength : i.length = j.length) :
    i = j := by
  have hzeros (k : List Char) :
      k.takeWhile (· == '0') =
        List.replicate (k.length - (k.dropWhile (· == '0')).length) '0' := by
    have hall : k.takeWhile (· == '0') = List.replicate (k.takeWhile (· == '0')).length '0' :=
      List.eq_replicate_of_mem fun c hc => by
        simpa using List.all_eq_true.mp List.all_takeWhile c hc
    have hsplit := congrArg List.length (List.takeWhile_append_dropWhile (p := (· == '0')) (l := k))
    rw [List.length_append] at hsplit
    rw [hall]
    congr 1
    omega
  rw [← List.takeWhile_append_dropWhile (p := (· == '0')) (l := i),
    ← List.takeWhile_append_dropWhile (p := (· == '0')) (l := j), hzeros i, hzeros j, hrest,
    hlength]

instance : TransCmp compareKind :=
  inferInstanceAs (TransCmp (compareOn fun i : Identifier => !isNumeric i))

instance : TransCmp compareText :=
  inferInstanceAs (TransCmp (compareOn fun i : List Char => i))

instance : TransCmp Identifier.comparePre :=
  inferInstanceAs (TransCmp (compareLex compareKind (compareLex (compareOn _) compareText)))

instance : TransCmp Identifier.compareBuild :=
  inferInstanceAs (TransCmp (compareLex compareKind
    (compareLex (compareOn _) (compareLex (compareOn significant) (compareOn List.length)))))

instance : LawfulEqCmp Identifier.comparePre where
  compare_self := Std.ReflCmp.compare_self
  eq_of_compare h := by
    obtain ⟨_, h⟩ := compareLex_eq_eq.mp h
    obtain ⟨_, htext⟩ := compareLex_eq_eq.mp h
    exact LawfulEqOrd.eq_of_compare htext

instance : LawfulEqCmp Identifier.compareBuild where
  compare_self := Std.ReflCmp.compare_self
  eq_of_compare {i j} h := by
    obtain ⟨hkind, h⟩ := compareLex_eq_eq.mp h
    obtain ⟨_, h⟩ := compareLex_eq_eq.mp h
    obtain ⟨hsignificant, hlength⟩ := compareLex_eq_eq.mp h
    have hkind : (!isNumeric i) = !isNumeric j := LawfulEqOrd.eq_of_compare hkind
    have hsignificant : significant i = significant j := LawfulEqOrd.eq_of_compare hsignificant
    have hlength : i.length = j.length := LawfulEqOrd.eq_of_compare hlength
    -- Two numbers have lost their leading zeros, of which the length tells how many there were.
    unfold significant at hsignificant
    cases hi : isNumeric i with
    | true =>
      have hj : isNumeric j = true := by simpa [hi] using hkind
      rw [if_pos hi, if_pos hj] at hsignificant
      exact eq_of_dropWhile_zeros hsignificant hlength
    | false =>
      have hj : isNumeric j = false := by simpa [hi] using hkind
      rwa [if_neg (by simp [hi]), if_neg (by simp [hj])] at hsignificant

end Identifier

namespace Version

instance : TransCmp Version.comparePre :=
  inferInstanceAs (TransCmp (compareLex (compareOn _) (List.compareLex Identifier.comparePre)))

instance : TransCmp Version.compareBuild :=
  inferInstanceAs (TransCmp (List.compareLex Identifier.compareBuild))

instance : LawfulEqCmp Version.compareBuild :=
  inferInstanceAs (LawfulEqCmp (List.compareLex Identifier.compareBuild))

instance : TransCmp compareCore :=
  inferInstanceAs (TransCmp (compareLex (compareOn Version.major)
    (compareLex (compareOn Version.minor) (compareOn Version.patch))))

/-- A transitive comparison of parts is a transitive comparison of versions. -/
instance {α : Type} {cmp : α → α → Ordering} [TransCmp cmp] (part : Version → α) :
    TransCmp fun a b => cmp (part a) (part b) where
  eq_swap := Std.OrientedCmp.eq_swap
  isLE_trans := TransCmp.isLE_trans

instance : TransCmp precedence :=
  inferInstanceAs (TransCmp (compareLex compareCore fun a b => comparePre a.pre b.pre))

instance : TransOrd Version :=
  inferInstanceAs (TransCmp (compareLex precedence fun a b => compareBuild a.build b.build))

instance : Std.LawfulOrderOrd Version where
  isLE_compare _ _ := Iff.rfl
  isGE_compare a b := by
    rw [Std.OrientedOrd.eq_swap (a := a), Ordering.isGE_swap]
    exact Iff.rfl

/-- Versions that compare equal are equal, build metadata included. -/
instance : LawfulEqOrd Version where
  compare_self := Std.ReflCmp.compare_self
  eq_of_compare {v w} h := by
    obtain ⟨hprecedence, hbuild⟩ := compareLex_eq_eq.mp h
    obtain ⟨hcore, hpre⟩ := compareLex_eq_eq.mp hprecedence
    obtain ⟨hmajor, h⟩ := compareLex_eq_eq.mp hcore
    obtain ⟨hminor, hpatch⟩ := compareLex_eq_eq.mp h
    obtain ⟨_, hids⟩ := compareLex_eq_eq.mp hpre
    have hmajor : v.major = w.major := LawfulEqOrd.eq_of_compare hmajor
    have hminor : v.minor = w.minor := LawfulEqOrd.eq_of_compare hminor
    have hpatch : v.patch = w.patch := LawfulEqOrd.eq_of_compare hpatch
    have hpre : v.pre = w.pre := LawfulEqCmp.eq_of_compare hids
    have hbuild : v.build = w.build := LawfulEqCmp.eq_of_compare hbuild
    cases v
    cases w
    rw [Version.mk.injEq]
    exact ⟨hmajor, hminor, hpatch, hpre, hbuild⟩

instance : Std.IsLinearOrder Version := .of_ord

/-- The check for a newer version is the order of versions. -/
theorem isNewer_iff (a b : Version) : isNewer a b = true ↔ b < a := by
  rw [isNewer, Ordering.isGT_iff_eq_gt, Std.OrientedOrd.eq_swap, Ordering.swap_eq_gt]
  exact Iff.rfl

end Version

end FrameworkUpgrade
