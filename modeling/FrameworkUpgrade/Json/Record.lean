import FrameworkUpgrade.Json.Reader

/-!
# `FrameworkUpgrade.Json.Record`: documents of a known form

A record is a document with known fields. It is written as an object, in which
other keys are skipped and a field stands once at most, or as a list of the values
of its fields in their order. Some of the fields at its front have to stand in a
list, and none beyond the last one may; in an object any may be missing.

`readRecord` gives for every field its value, if it is there. What a field holds is
read by the reader of the field. A document may have a mark for octets that are no
text, which stands in no key and no text that is read.
-/

set_option autoImplicit false

namespace FrameworkUpgrade

namespace Json

/-- A field of a record: its key, and the reader of its value. -/
structure Field (α : Type) where
  key : String
  value : List Char → Result α

/-- A text after the comma that has to stand between two items. -/
def readComma : List Char → Except Fault (List Char)
  | ',' :: rest =>
    match dropSpaces rest with
    | ']' :: _ => .error .malformed
    | rest => .ok rest
  | [] => .error .endsEarly
  | _ => .error .malformed

/-- The values of fields in a list, `first` of which no item has been read. -/
def readRow {α : Type} : (fields : List (Field α)) → (first : Bool) → List Char →
    Except Fault (List α × List Char)
  | [], _, cs =>
    match dropSpaces cs with
    | ']' :: rest => .ok ([], rest)
    | [] => .error .endsEarly
    | _ => .error .misshapen
  | f :: fields, first, cs =>
    match dropSpaces cs with
    | ']' :: rest => .ok ([], rest)
    | cs => do
      let cs ← if first then pure cs else readComma cs
      let (v, cs) ← f.value cs
      let (vs, rest) ← readRow fields false cs
      return (v :: vs, rest)

/-- The value of a member of an object, unless its key is none of the fields. -/
def readField {α : Type} (fields : List (Field α)) (key : String) (cs : List Char) :
    Result (Option α) :=
  match fields.find? (·.key == key) with
  | some f => (f.value cs).map fun (v, rest) => (some v, rest)
  | none => (skipValue cs).map fun ((), rest) => (none, rest)

/-- The members of an object that are fields. -/
def fieldMembers {α : Type} (written : List (String × Option α)) : List (String × α) :=
  written.filterMap fun (key, value) => value.map fun v => (key, v)

/-- The values of fields among members, unless a field stands twice. -/
def fieldValues {α : Type} (fields : List (Field α)) (members : List (String × α)) :
    Except Fault (List (Option α)) :=
  if (members.map Prod.fst).Nodup then .ok (fields.map fun f => members.lookup f.key)
  else .error .misshapen

/-- The values of the fields of the record at the front of a text, of which the
first `needed` have to stand in a list. -/
def readRecord {α : Type} (mark : Option Char) (fields : List (Field α)) (needed : Nat)
    (cs : List Char) : Except Fault (List (Option α) × List Char) :=
  match cs with
  | '{' :: rest => do
    let (written, rest) ← readObject (.keep mark) (readField fields) rest
    let values ← fieldValues fields (fieldMembers written)
    return (values, rest)
  | '[' :: rest => do
    let (values, rest) ← readRow fields true rest
    if values.length < needed then throw .misshapen
    return (values.map some ++ List.replicate (fields.length - values.length) none, rest)
  | [] => .error .endsEarly
  | _ => .error .misshapen

/-- The values of the fields of the record that a text is. -/
def readDocument {α : Type} (mark : Option Char) (fields : List (Field α)) (needed : Nat)
    (cs : List Char) : Except Fault (List (Option α)) :=
  finish (readRecord mark fields needed (dropSpaces cs))

/-- The text at the front of a text. -/
def readTextValue (mark : Option Char) : List Char → Result String
  | '"' :: rest => readKey (.keep mark) rest
  | [] => .error .endsEarly
  | _ => .error .misshapen

/-- Null, or what a reader reads. -/
def readNullable {α : Type} (value : List Char → Result α) : List Char → Result (Option α)
  | 'n' :: rest => (readWord .null "ull".toList rest).map fun (_, rest) => (none, rest)
  | cs => (value cs).map fun (v, rest) => (some v, rest)

/-- The members of the object at the front of a text, all read by one reader. -/
def readMap {α : Type} (mark : Option Char) (value : List Char → Result α) :
    List Char → Result (List (String × α))
  | '{' :: rest => readObject (.keep mark) (fun _ => value) rest
  | [] => .error .endsEarly
  | _ => .error .misshapen

end Json

end FrameworkUpgrade
