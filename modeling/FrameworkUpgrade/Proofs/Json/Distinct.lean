import FrameworkUpgrade.Proofs.Json.Limits

/-!
# `FrameworkUpgrade.Proofs.Json.Distinct`: a key is in an object once

An object is a list of members, and nothing in its type keeps a key from standing in it twice.
The reader does: of a key that is written twice, the last value stands in the first place.
`Json.Distinct` says that the keys are distinct in a value and in every value inside it, and
`distinct_of_read` that whatever is read from a text is such a value.
-/

set_option autoImplicit false

namespace FrameworkUpgrade

namespace Json

/-- A key is in an object once, here and in every value inside. -/
inductive Distinct : Json → Prop where
  | null : Distinct .null
  | bool (b : Bool) : Distinct (.bool b)
  | number (n : Number) : Distinct (.number n)
  | text (s : String) : Distinct (.text s)
  | list {items : List Json} (h : ∀ v ∈ items, Distinct v) : Distinct (.list items)
  | object {ms : Members} (keys : ms.keys.Nodup) (values : ∀ m ∈ ms, Distinct m.2) :
      Distinct (.object ms)

/-- An object has distinct keys everywhere exactly if its own are, and those below every member. -/
theorem distinct_object {ms : Members} : Distinct (.object ms) ↔ ms.Keyed Distinct := by
  constructor
  · rintro (_ | _ | _ | _ | _ | ⟨hkeys, hvalues⟩)
    exact ⟨hkeys, hvalues⟩
  · rintro ⟨hkeys, hvalues⟩
    exact .object hkeys hvalues

/-- To put a member keeps the keys distinct: an old member under the key is replaced. -/
theorem Distinct.put {ms : Members} {key : String} {value : Json}
    (h : Distinct (.object ms)) (hvalue : value.Distinct) :
    Distinct (.object (Members.put key value ms)) :=
  distinct_object.mpr ((distinct_object.mp h).put key hvalue)

/-- To change the member under a key keeps the keys distinct. -/
theorem Distinct.update {ms : Members} {f : Json → Json} (h : Distinct (.object ms))
    (hf : ∀ v : Json, v.Distinct → (f v).Distinct) (key : String) :
    Distinct (.object (Members.update key f ms)) :=
  distinct_object.mpr ((distinct_object.mp h).update hf key)

/-- A value within the limits has distinct keys, because the limits ask for them. -/
theorem Within.distinct {P : Number → Prop} {room : Nat} {j : Json} (h : Within P room j) :
    j.Distinct := by
  induction h with
  | null => exact .null
  | bool b => exact .bool b
  | number _ => exact .number _
  | text s => exact .text s
  | list _ ih => exact .list ih
  | object keys _ ih => exact .object keys ih

/-- The keys are distinct in every object of a value that a text is. -/
theorem distinct_of_read {cs : List Char} {j : Json} (h : read cs = .ok j) : j.Distinct :=
  (within_of_read h).distinct

end Json

end FrameworkUpgrade
