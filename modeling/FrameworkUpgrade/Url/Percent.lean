import FrameworkUpgrade.Text.Hex
import FrameworkUpgrade.Text.Utf8

/-!
# `FrameworkUpgrade.Url.Percent`: octets written with a percent sign

A character that may not stand in a part of a URL is written as its UTF-8 octets,
each as a percent sign and two upper-case hexadecimal digits. Which characters may
not stand there differs from part to part, and none above ASCII may anywhere.
-/

set_option autoImplicit false

namespace FrameworkUpgrade.Url

/-- A character of ASCII that is printed. -/
def isPrinted (c : Char) : Bool :=
  0x20 ≤ c.toNat && c.toNat ≤ 0x7E

/-- Whether a character may stand in a path that has no segments. -/
def mayStandInOpaque (c : Char) : Bool :=
  isPrinted c

/-- Whether a character may stand in a fragment. -/
def mayStandInFragment (c : Char) : Bool :=
  isPrinted c && c ∉ [' ', '"', '<', '>', '\x60']

/-- Whether a character may stand in a segment of a path. -/
def mayStandInPath (c : Char) : Bool :=
  mayStandInFragment c && c ∉ ['#', '?', '\x7b', '\x7d']

/-- Whether a character may stand in a query. -/
def mayStandInQuery (special : Bool) (c : Char) : Bool :=
  isPrinted c && c ∉ [' ', '"', '#', '<', '>'] && !(special && c == '\'')

/-- Whether a character may stand in credentials. -/
def mayStandInCredentials (c : Char) : Bool :=
  mayStandInPath c && c ∉ ['/', ':', ';', '=', '@', '[', '\\', ']', '^', '|']

/-- An octet with a percent sign. -/
def escapeOctet (b : UInt8) : List Char :=
  ['%', Text.upperHex (b.toNat / 16), Text.upperHex (b.toNat % 16)]

/-- A text in which only characters stand that may. -/
def escape (mayStand : Char → Bool) (cs : List Char) : List Char :=
  cs.flatMap fun c =>
    if mayStand c then [c] else (String.utf8EncodeChar c).flatMap escapeOctet

/-- The octets of a text in which octets may be written with a percent sign. A
percent sign that no two digits follow stands for itself. -/
def unescape : List Char → List UInt8
  | [] => []
  | '%' :: a :: b :: rest =>
    match Text.hexValue? a, Text.hexValue? b with
    | some x, some y => UInt8.ofNat (16 * x + y) :: unescape rest
    | _, _ => 0x25 :: unescape (a :: b :: rest)
  | c :: rest => String.utf8EncodeChar c ++ unescape rest

/-- Whether the octets of a text are text. -/
def isText (cs : List Char) : Bool :=
  (String.fromUTF8? ⟨(unescape cs).toArray⟩).isSome

end FrameworkUpgrade.Url
