/-!
# `FrameworkUpgrade.Text.Utf8`: reading octets that may not be text

What a program prints is shown even where it is not UTF-8: every maximal part of
the octets that can start no character is shown as one replacement character. A
document in which such parts are told from all characters has a mark in their place
that stands for nothing else in it.

The reader is a machine over octets. Between characters it waits for a first
octet; after one it owes a number of tail octets, and the next of them lies in a
range that rules out overlong forms, surrogates and values above U+10FFFF.
-/

set_option autoImplicit false

namespace FrameworkUpgrade.Text.Utf8

/-- A character begun: the tail octets owed, the range of the next one, and the
value read so far. -/
structure Pending where
  owed : Nat
  low : Nat
  high : Nat
  value : Nat

/-- What a first octet begins: a whole character, a pending one, or nothing. -/
inductive Start where
  | whole (c : Char)
  | pending (p : Pending)
  | refused

/-- The octet `b` read between two characters. -/
def start (b : Nat) : Start :=
  if b ≤ 0x7F then .whole (Char.ofNat b)
  else if 0xC2 ≤ b ∧ b ≤ 0xDF then .pending ⟨1, 0x80, 0xBF, b - 0xC0⟩
  else if b = 0xE0 then .pending ⟨2, 0xA0, 0xBF, 0⟩
  else if b = 0xED then .pending ⟨2, 0x80, 0x9F, 0xD⟩
  else if 0xE1 ≤ b ∧ b ≤ 0xEF then .pending ⟨2, 0x80, 0xBF, b - 0xE0⟩
  else if b = 0xF0 then .pending ⟨3, 0x90, 0xBF, 0⟩
  else if b = 0xF4 then .pending ⟨3, 0x80, 0x8F, 4⟩
  else if 0xF1 ≤ b ∧ b ≤ 0xF3 then .pending ⟨3, 0x80, 0xBF, b - 0xF0⟩
  else .refused

/-- The character shown for octets that are no text. -/
def replacement : Char := '\uFFFD'

/-- The octet `b` read between two characters, what it shows put before what the
rest of the octets show. The mark is shown for octets that are no text. -/
def begin (mark : Char) (b : Nat) (rest : Option Pending → List Char) : List Char :=
  match start b with
  | .whole c => c :: rest none
  | .pending p => rest (some p)
  | .refused => mark :: rest none

/-- The text shown for octets, from a state of the machine. -/
def showFrom (mark : Char) : Option Pending → List UInt8 → List Char
  | none, [] => []
  | some _, [] => [mark]
  | none, b :: bs => begin mark b.toNat (showFrom mark · bs)
  | some p, b :: bs =>
    if p.low ≤ b.toNat ∧ b.toNat ≤ p.high then
      let value := p.value * 64 + (b.toNat - 0x80)
      if p.owed ≤ 1 then Char.ofNat value :: showFrom mark none bs
      else showFrom mark (some ⟨p.owed - 1, 0x80, 0xBF, value⟩) bs
    else mark :: begin mark b.toNat (showFrom mark · bs)

/-- The text shown for octets. -/
def shown (bytes : ByteArray) : List Char :=
  showFrom replacement none bytes.toList

/-- A character that a text does not hold. -/
def absent (cs : List Char) : Char :=
  let candidates := (List.range (cs.length + 1)).map fun n => Char.ofNat (0xE000 + n)
  (candidates.find? (! cs.contains ·)).getD replacement

/-- The text of octets, and the mark that stands in it for those that are no text, if
there are any. -/
def marked (bytes : ByteArray) : Option Char × List Char :=
  match String.fromUTF8? bytes with
  | some text => (none, text.toList)
  | none =>
    let mark := absent (shown bytes)
    (some mark, showFrom mark none bytes.toList)

end FrameworkUpgrade.Text.Utf8
