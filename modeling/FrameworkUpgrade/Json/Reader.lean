import FrameworkUpgrade.Json.Value
import FrameworkUpgrade.Text.Hex

/-!
# `FrameworkUpgrade.Json.Reader`: reading a JSON value

The grammar is that of RFC 8259: no byte order mark, and the space, the tab, the
line feed and the carriage return as the only blanks. A text is at fault in one of
three ways. It may end too early, inside a value, a container or a string. It may
break a rule of the grammar or of the limits below. Or it may be good JSON of
another form than the one that is wanted. The first fault from the left is the one
reported.

A value that is read keeps to limits: at most `maxDepth` containers are open at a
time, an escaped surrogate has its other half, and a number is not too large. A
value that is skipped keeps to the grammar only. Where a mark stands for octets that
are no text, no string that is read holds it, and one that is skipped may.

Of a key that is written twice, the last value stands in the first place.
-/

set_option autoImplicit false

namespace FrameworkUpgrade

namespace Json

/-- How a text fails to be the JSON that is wanted. -/
inductive Fault where
  | endsEarly
  | malformed
  | misshapen
deriving DecidableEq, Repr

/-- The wording of a fault. -/
def Fault.message : Fault → String
  | .endsEarly => "the JSON text ends early"
  | .malformed => "the JSON text is malformed"
  | .misshapen => "the JSON text has another form"

/-- A read value and the rest of the text, or a fault. -/
abbrev Result (α : Type) := Except Fault (α × List Char)

/-- Whether a value is kept, and its limits checked, or skipped. A text may have a
mark that stands for octets that are no text. -/
inductive Purpose where
  | keep (mark : Option Char := none)
  | skip
deriving DecidableEq, Repr

/-- Whether a character may not stand in a string. -/
def Purpose.refuses : Purpose → Char → Bool
  | .keep mark, c => mark == some c
  | .skip, _ => false

/-- The most containers that may be open at a time. -/
def maxDepth : Nat := 127

/-- A blank of the grammar. -/
def isSpace (c : Char) : Bool :=
  c == ' ' || c == '\t' || c == '\n' || c == '\r'

/-- A text without the blanks at its front. -/
def dropSpaces (cs : List Char) : List Char :=
  cs.dropWhile isSpace

/-- The value of four hexadecimal digits. -/
def hexValues? (a b c d : Char) : Option Nat := do
  return (((← Text.hexValue? a) * 16 + (← Text.hexValue? b)) * 16 + (← Text.hexValue? c)) * 16
    + (← Text.hexValue? d)

/-- The number of octets of a text. -/
def octets (cs : List Char) : Nat :=
  cs.foldl (fun n c => n + c.utf8Size) 0

/-- The fault of a text that should start with four hexadecimal digits and does
not. -/
def hexFault (cs : List Char) : Fault :=
  if octets cs < 4 then .endsEarly else .malformed

/-- The character of a one-letter escape. -/
def unescape? (c : Char) : Option Char :=
  if c = '"' ∨ c = '\\' ∨ c = '/' then some c
  else if c = 'b' then some '\x08'
  else if c = 'f' then some '\x0C'
  else if c = 'n' then some '\n'
  else if c = 'r' then some '\r'
  else if c = 't' then some '\t'
  else none

/-- The first half of a surrogate pair. -/
def isLeading (n : Nat) : Bool :=
  0xD800 ≤ n && n ≤ 0xDBFF

/-- The second half of a surrogate pair. -/
def isTrailing (n : Nat) : Bool :=
  0xDC00 ≤ n && n ≤ 0xDFFF

/-- The character of a surrogate pair. -/
def pairChar (leading trailing : Nat) : Char :=
  Char.ofNat (0x10000 + (leading - 0xD800) * 0x400 + (trailing - 0xDC00))

/-- What stands for half a surrogate pair in a skipped string. -/
def loneHalf : Char := '\uFFFD'

/-- A character put before a read string. -/
def consChar (c : Char) (r : Result (List Char)) : Result (List Char) :=
  r.map fun (cs, rest) => (c :: cs, rest)

/-- The string whose opening quote has been read. -/
def readString (purpose : Purpose) : List Char → Result (List Char)
  | [] => .error .endsEarly
  | '"' :: rest => .ok ([], rest)
  | '\\' :: 'u' :: a :: b :: c :: d :: rest =>
    match hexValues? a b c d with
    | none => .error (hexFault (a :: b :: c :: d :: rest))
    | some n =>
      if isTrailing n then
        match purpose with
        | .keep _ => .error .malformed
        | .skip => consChar loneHalf (readString purpose rest)
      else if isLeading n then
        match purpose with
        | .skip => consChar loneHalf (readString purpose rest)
        | .keep _ =>
          match rest with
          | '\\' :: 'u' :: a :: b :: c :: d :: rest =>
            match hexValues? a b c d with
            | none => .error (hexFault (a :: b :: c :: d :: rest))
            | some m =>
              if isTrailing m then consChar (pairChar n m) (readString purpose rest)
              else .error .malformed
          | '\\' :: 'u' :: rest => .error (hexFault rest)
          | [] | ['\\'] => .error .endsEarly
          | _ => .error .malformed
      else consChar (Char.ofNat n) (readString purpose rest)
  | '\\' :: 'u' :: rest => .error (hexFault rest)
  | '\\' :: e :: rest =>
    match unescape? e with
    | some c => consChar c (readString purpose rest)
    | none => .error .malformed
  | ['\\'] => .error .endsEarly
  | c :: rest =>
    if c.toNat < 0x20 || purpose.refuses c then .error .malformed
    else consChar c (readString purpose rest)

/-- The key whose opening quote has been read. -/
def readKey (purpose : Purpose) (cs : List Char) : Result String :=
  (readString purpose cs).map fun (key, rest) => (String.ofList key, rest)

/-- Digits put behind a number as long as it stays below 2^64, and the digits that
are left. -/
def absorb (n : Nat) : List Char → Nat × List Char
  | [] => (n, [])
  | d :: ds =>
    let m := 10 * n + (d.toNat - 48)
    if m < Nat.pow 2 64 then absorb m ds else (n, d :: ds)

/-- A written number: its sign, the digits before and after the point, and the
exponent. -/
structure Literal where
  negative : Bool
  whole : List Char
  fraction : Option (List Char)
  exponent : Option Int
deriving DecidableEq, Repr

/-- The value of a written number. A number with neither fraction nor exponent is
an integer when it fits in 64 bits, with the exception of minus zero. Any other
is a binary64 number: its first digits that fit in 64 bits, times a power of ten. -/
def Literal.value? (l : Literal) : Option Number :=
  let (n, left) := absorb 0 l.whole
  let signed := fun (x : Binary64) => Number.real (if l.negative then x.negate else x)
  if l.fraction.isNone && l.exponent.isNone && left.isEmpty && !l.negative then some (.int n)
  else if l.fraction.isNone && l.exponent.isNone && left.isEmpty && 0 < n && n ≤ Nat.pow 2 63 then
    some (.int (-n))
  else
    let digits := l.fraction.getD []
    let (n, ignored) := absorb n digits
    let shift : Int := left.length - (digits.length - ignored.length)
    (Binary64.ofDecimal? n (shift + l.exponent.getD 0)).map signed

/-- One or more digits at the front of a text, and the rest of the text. -/
def readDigits (cs : List Char) : Result (List Char) :=
  match cs.takeWhile Char.isDigit, cs.dropWhile Char.isDigit with
  | [], [] => .error .endsEarly
  | [], _ => .error .malformed
  | ds, rest => .ok (ds, rest)

/-- The digits before the point. No digit may follow a leading zero. -/
def readWhole (cs : List Char) : Except Fault (List Char × List Char) := do
  let (ds, rest) ← readDigits cs
  match ds with
  | '0' :: _ :: _ => throw .malformed
  | _ => return (ds, rest)

/-- The fraction at the front of a text, if there is one. -/
def readFraction : List Char → Result (Option (List Char))
  | '.' :: cs => (readDigits cs).map fun (ds, rest) => (some ds, rest)
  | cs => .ok (none, cs)

/-- A sign and the digits of an exponent. -/
def readSigned : List Char → Result Int
  | '-' :: cs => (readDigits cs).map fun (ds, rest) => (-(Nat.ofDigitChars 10 ds 0 : Int), rest)
  | '+' :: cs => (readDigits cs).map fun (ds, rest) => (Nat.ofDigitChars 10 ds 0, rest)
  | cs => (readDigits cs).map fun (ds, rest) => (Nat.ofDigitChars 10 ds 0, rest)

/-- The exponent at the front of a text, if there is one. -/
def readExponent : List Char → Result (Option Int)
  | 'e' :: cs => (readSigned cs).map fun (n, rest) => (some n, rest)
  | 'E' :: cs => (readSigned cs).map fun (n, rest) => (some n, rest)
  | cs => .ok (none, cs)

/-- The number whose sign has been read. -/
def readNumber (purpose : Purpose) (negative : Bool) (cs : List Char) :
    Except Fault (Json × List Char) := do
  let (whole, cs) ← readWhole cs
  let (fraction, cs) ← readFraction cs
  let (exponent, cs) ← readExponent cs
  match purpose with
  | .skip => return (.null, cs)
  | .keep _ =>
    match Literal.value? { negative, whole, fraction, exponent } with
    | some n => return (.number n, cs)
    | none => throw .malformed

/-- The letters of a word that has to follow. -/
def readWord (value : Json) : (word cs : List Char) → Result Json
  | [], rest => .ok (value, rest)
  | _ :: _, [] => .error .endsEarly
  | w :: word, c :: cs => if w = c then readWord value word cs else .error .malformed

/-- The items of a list up to its closing bracket, when at least one follows. -/
def readItems {α : Type} (value : List Char → Result α) :
    (fuel : Nat) → List Char → Except Fault (List α × List Char)
  | 0, _ => .error .endsEarly
  | fuel + 1, cs => do
    let (v, cs) ← value (dropSpaces cs)
    match dropSpaces cs with
    | ']' :: rest => return ([v], rest)
    | ',' :: rest =>
      match dropSpaces rest with
      | ']' :: _ => throw .malformed
      | rest =>
        let (vs, rest) ← readItems value fuel rest
        return (v :: vs, rest)
    | [] => throw .endsEarly
    | _ => throw .malformed

/-- The list whose opening bracket has been read. -/
def readList {α : Type} (value : List Char → Result α) (cs : List Char) : Result (List α) :=
  match dropSpaces cs with
  | ']' :: rest => .ok ([], rest)
  | [] => .error .endsEarly
  | cs => readItems value cs.length cs

/-- The text after the colon that has to follow a key. -/
def readColon (cs : List Char) : Except Fault (List Char) :=
  match dropSpaces cs with
  | ':' :: rest => .ok (dropSpaces rest)
  | [] => .error .endsEarly
  | _ => .error .malformed

/-- The members of an object up to its closing brace, when at least one follows.
How a value is read may depend on its key. -/
def readMembers {α : Type} (purpose : Purpose) (value : String → List Char → Result α) :
    (fuel : Nat) → List Char → Except Fault (List (String × α) × List Char)
  | 0, _ => .error .endsEarly
  | fuel + 1, cs =>
    match dropSpaces cs with
    | '"' :: cs => do
      let (key, cs) ← readKey purpose cs
      let (v, cs) ← value key (← readColon cs)
      match dropSpaces cs with
      | '}' :: rest => return ([(key, v)], rest)
      | ',' :: rest =>
        let (ms, rest) ← readMembers purpose value fuel rest
        return ((key, v) :: ms, rest)
      | [] => throw .endsEarly
      | _ => throw .malformed
    | [] => .error .endsEarly
    | _ => .error .malformed

/-- The object whose opening brace has been read, with every member as written. -/
def readObject {α : Type} (purpose : Purpose) (value : String → List Char → Result α)
    (cs : List Char) : Result (List (String × α)) :=
  match dropSpaces cs with
  | '}' :: rest => .ok ([], rest)
  | [] => .error .endsEarly
  | cs => readMembers purpose value cs.length cs

/-- The members as written, with the last value of a key in its first place. -/
def Members.ofWritten (ms : List (String × Json)) : Members :=
  ms.foldl (fun acc m => Members.put m.1 m.2 acc) []

/-- The value at the front of a text, with room for `room` open containers. -/
def readValue (purpose : Purpose) : (room : Nat) → List Char → Result Json
  | _, [] => .error .endsEarly
  | room, c :: cs =>
    if c = '"' then (readString purpose cs).map fun (s, rest) => (.text (String.ofList s), rest)
    else if c = 'n' then readWord .null "ull".toList cs
    else if c = 't' then readWord (.bool true) "rue".toList cs
    else if c = 'f' then readWord (.bool false) "alse".toList cs
    else if c = '-' then readNumber purpose true cs
    else if c.isDigit then readNumber purpose false (c :: cs)
    else match room with
      | 0 => .error .malformed
      | room + 1 =>
        if c = '[' then
          (readList (readValue purpose room) cs).map fun (vs, rest) => (.list vs, rest)
        else if c = '{' then
          (readObject purpose (fun _ => readValue purpose room) cs).map fun (ms, rest) =>
            (.object (Members.ofWritten ms), rest)
        else .error .malformed

/-- A value after which only blanks follow. -/
def finish {α : Type} (r : Result α) : Except Fault α := do
  let (v, rest) ← r
  if (dropSpaces rest).isEmpty then return v else throw .malformed

/-- The value that a text is. -/
def read (cs : List Char) : Except Fault Json :=
  finish (readValue .keep maxDepth (dropSpaces cs))

/-- The rest of a text after the value at its front, which is skipped. -/
def skipValue (cs : List Char) : Result Unit :=
  (readValue .skip cs.length cs).map fun (_, rest) => ((), rest)

end Json

end FrameworkUpgrade
