import FrameworkUpgrade.Json.Value
import FrameworkUpgrade.Number.Shortest

/-!
# `FrameworkUpgrade.Json.Printer`: the text of a JSON value

A value is written over several lines: two spaces for each open container, a
space after the colon, and nothing between the brackets of an empty container. A
string escapes the quote, the backslash and the controls below U+0020, and writes
all else as it is.

A binary64 number is written with its shortest digits. It is positional, with at
least one decimal, when the exponent of its first digit is at least -5 and below
16, and otherwise has one digit before the point and a signed exponent.
-/

set_option autoImplicit false

namespace FrameworkUpgrade

namespace Json

/-- A digit sequence with the point after its first `before` digits. -/
def positional (digits : List Char) (exponent : Int) : List Char :=
  if 0 ≤ exponent then digits ++ List.replicate exponent.toNat '0' ++ ['.', '0']
  else
    let decimals := (-exponent).toNat
    if decimals < digits.length then
      digits.take (digits.length - decimals) ++ '.' :: digits.drop (digits.length - decimals)
    else '0' :: '.' :: List.replicate (decimals - digits.length) '0' ++ digits

/-- One digit, the decimals if there are any, and a signed exponent. -/
def scientific (digits : List Char) (exponent : Int) : List Char :=
  let decimals := match digits.drop 1 with
    | [] => []
    | ds => '.' :: ds
  let sign := if 0 ≤ exponent then '+' else '-'
  digits.take 1 ++ decimals ++ 'e' :: sign :: Nat.toDigits 10 exponent.natAbs

/-- The text of a binary64 number. -/
def realChars (x : Binary64) : List Char :=
  let d := x.shortest
  let digits := Nat.toDigits 10 d.digits
  let first : Int := d.exponent + digits.length - 1
  let magnitude :=
    if -5 ≤ first ∧ first < 16 then positional digits d.exponent else scientific digits first
  if x.negative then '-' :: magnitude else magnitude

/-- The text of an integer. -/
def intChars (n : Int) : List Char :=
  if n < 0 then '-' :: Nat.toDigits 10 n.natAbs else Nat.toDigits 10 n.natAbs

/-- The text of a number. -/
def Number.chars : Number → List Char
  | .int n => intChars n
  | .real x => realChars x

/-- A control character as four hexadecimal digits. -/
def controlChars (c : Char) : List Char :=
  '\\' :: 'u' :: '0' :: '0' :: (c.toNat / 16).digitChar :: [(c.toNat % 16).digitChar]

/-- A character as it stands in a string. -/
def escapeChar (c : Char) : List Char :=
  if c = '"' then ['\\', '"']
  else if c = '\\' then ['\\', '\\']
  else if c = '\x08' then ['\\', 'b']
  else if c = '\x0C' then ['\\', 'f']
  else if c = '\n' then ['\\', 'n']
  else if c = '\r' then ['\\', 'r']
  else if c = '\t' then ['\\', 't']
  else if c.toNat < 0x20 then controlChars c
  else [c]

/-- A text between quotes. -/
def stringChars (s : String) : List Char :=
  '"' :: s.toList.flatMap escapeChar ++ ['"']

/-- A line feed and the spaces of `depth` open containers. -/
def lineStart (depth : Nat) : List Char :=
  '\n' :: List.replicate (2 * depth) ' '

mutual

/-- The text of a value inside `depth` open containers. -/
def writeValue (depth : Nat) : Json → List Char
  | .null => "null".toList
  | .bool true => "true".toList
  | .bool false => "false".toList
  | .number n => n.chars
  | .text s => stringChars s
  | .list [] => ['[', ']']
  | .list (v :: vs) =>
    '[' :: lineStart (depth + 1) ++ writeValue (depth + 1) v ++ writeItems (depth + 1) vs
      ++ lineStart depth ++ [']']
  | .object [] => ['{', '}']
  | .object (m :: ms) =>
    '{' :: lineStart (depth + 1) ++ writeMember (depth + 1) m ++ writeMembers (depth + 1) ms
      ++ lineStart depth ++ ['}']

/-- The items after the first, each after a comma. -/
def writeItems (depth : Nat) : List Json → List Char
  | [] => []
  | v :: vs => ',' :: lineStart depth ++ writeValue depth v ++ writeItems depth vs

/-- A member: its key, a colon, a space and its value. -/
def writeMember (depth : Nat) : String × Json → List Char
  | (key, value) => stringChars key ++ ':' :: ' ' :: writeValue depth value

/-- The members after the first, each after a comma. -/
def writeMembers (depth : Nat) : Members → List Char
  | [] => []
  | m :: ms => ',' :: lineStart depth ++ writeMember depth m ++ writeMembers depth ms

end

/-- The text of a value. -/
def chars (v : Json) : List Char :=
  writeValue 0 v

end Json

end FrameworkUpgrade
