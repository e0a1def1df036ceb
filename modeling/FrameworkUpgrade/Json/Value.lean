import FrameworkUpgrade.Number.Binary64

/-!
# `FrameworkUpgrade.Json.Value`: JSON values and their objects

An object is a list of members. Its order is the order in which the keys were
first written, and a key is in it once. `find?` reads a member, `put` gives a key
a value where the key stands, or at the end where it is new, and `update` changes
the value of a key that is there.
-/

set_option autoImplicit false

namespace FrameworkUpgrade

namespace Json

/-- A number: an integer of 64 bits, with or without sign, or a binary64 number. -/
inductive Number where
  | int (n : Int)
  | real (x : Binary64)
deriving DecidableEq, Repr

end Json

/-- A JSON value. -/
inductive Json where
  | null
  | bool (b : Bool)
  | number (n : Json.Number)
  | text (s : String)
  | list (items : List Json)
  | object (members : List (String × Json))
deriving Repr, Inhabited

namespace Json

mutual

/-- Whether two values are the same. -/
def decEq : (a b : Json) → Decidable (a = b)
  | .null, b => match b with
    | .null => isTrue rfl
    | .bool _ | .number _ | .text _ | .list _ | .object _ => isFalse nofun
  | .bool x, b => match b with
    | .bool y => decidable_of_iff (x = y) ⟨congrArg _, Json.bool.inj⟩
    | .null | .number _ | .text _ | .list _ | .object _ => isFalse nofun
  | .number x, b => match b with
    | .number y => decidable_of_iff (x = y) ⟨congrArg _, Json.number.inj⟩
    | .null | .bool _ | .text _ | .list _ | .object _ => isFalse nofun
  | .text x, b => match b with
    | .text y => decidable_of_iff (x = y) ⟨congrArg _, Json.text.inj⟩
    | .null | .bool _ | .number _ | .list _ | .object _ => isFalse nofun
  | .list as, b => match b with
    | .list bs =>
      have := decEqItems as bs
      decidable_of_iff (as = bs) ⟨congrArg _, Json.list.inj⟩
    | .null | .bool _ | .number _ | .text _ | .object _ => isFalse nofun
  | .object ms, b => match b with
    | .object ns =>
      have := decEqMembers ms ns
      decidable_of_iff (ms = ns) ⟨congrArg _, Json.object.inj⟩
    | .null | .bool _ | .number _ | .text _ | .list _ => isFalse nofun

/-- Whether two lists have the same values. -/
def decEqItems : (as bs : List Json) → Decidable (as = bs)
  | [], [] => isTrue rfl
  | a :: as, b :: bs =>
    have := decEq a b
    have := decEqItems as bs
    decidable_of_iff (a = b ∧ as = bs) (by rw [List.cons.injEq])
  | [], _ :: _ | _ :: _, [] => isFalse nofun

/-- Whether two objects have the same members in the same order. -/
def decEqMembers : (ms ns : List (String × Json)) → Decidable (ms = ns)
  | [], [] => isTrue rfl
  | (key, a) :: ms, (key', b) :: ns =>
    have := decEq a b
    have := decEqMembers ms ns
    decidable_of_iff ((key = key' ∧ a = b) ∧ ms = ns) (by rw [List.cons.injEq, Prod.mk.injEq])
  | [], _ :: _ | _ :: _, [] => isFalse nofun

end

instance : DecidableEq Json := decEq

/-- The members of an object, in order. -/
abbrev Members := List (String × Json)

namespace Members

/-- The keys of an object, in order. -/
def keys (ms : Members) : List String :=
  ms.map Prod.fst

/-- The value of a key. -/
def find? (key : String) : Members → Option Json
  | [] => none
  | (k, v) :: ms => if k = key then some v else find? key ms

/-- Whether an object has a key. -/
def has (key : String) (ms : Members) : Bool :=
  (find? key ms).isSome

/-- The object with another value under a key. A new key comes last. -/
def put (key : String) (value : Json) : Members → Members
  | [] => [(key, value)]
  | (k, v) :: ms => if k = key then (k, value) :: ms else (k, v) :: put key value ms

/-- The object with the value of a key changed, where the object has the key. -/
def update (key : String) (f : Json → Json) : Members → Members
  | [] => []
  | (k, v) :: ms => if k = key then (k, f v) :: ms else (k, v) :: update key f ms

end Members

/-- The text of a value that is one. -/
def text? : Json → Option String
  | .text s => some s
  | _ => none

/-- The members of a value that is an object. -/
def members? : Json → Option Members
  | .object ms => some ms
  | _ => none

end Json

end FrameworkUpgrade
