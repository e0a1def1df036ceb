/-!
# `FrameworkUpgrade.Domain.Punycode`: a label of a host name in ASCII

The characters above ASCII of a label are taken out and written behind it in
ascending order, each as the number of places that the insertion of it moves
forward from the one before. Such a number is written in base thirty-six with the
least digit first, where a digit below a threshold is the last one. The threshold
follows a bias that is adapted to the size of the numbers. Reading puts the
characters back, each behind a complete number.
-/

set_option autoImplicit false

namespace FrameworkUpgrade.Domain.Punycode

/-- A digit of base thirty-six: the letters come first. -/
def digit (n : Nat) : Char :=
  if n < 26 then Char.ofNat (0x61 + n) else Char.ofNat (0x30 + (n - 26))

/-- The threshold of a digit, whose place is counted in steps of thirty-six. -/
def threshold (bias place : Nat) : Nat :=
  max 1 (min 26 (place - bias))

/-- The digits of a number. -/
def digits (bias place number : Nat) : List Char :=
  let t := threshold bias place
  if number < t then [digit number]
  else digit (t + (number - t) % (36 - t)) :: digits bias (place + 36) ((number - t) / (36 - t))
termination_by number
decreasing_by
  have h : 1 ≤ threshold bias place := Nat.le_max_left ..
  exact Nat.lt_of_le_of_lt (Nat.div_le_self ..) (by omega)

/-- The bias for a number from which the size is taken out. -/
def settle (place delta : Nat) : Nat :=
  if 455 < delta then settle (place + 36) (delta / 35)
  else place + 36 * delta / (delta + 38)
termination_by delta

/-- The bias after a number, with so many characters written. -/
def adapt (first : Bool) (delta written : Nat) : Nat :=
  let scaled := if first then delta / 700 else delta / 2
  settle 0 (scaled + scaled / written)

/-- A label being written. -/
structure State where
  text : List Char
  delta : Nat
  bias : Nat
  written : Nat
  first : Bool

/-- The state after the character `c` of the label is passed, when characters of
the code `code` are written. -/
def pass (code : Nat) (s : State) (c : Char) : State :=
  if c.toNat < code then { s with delta := s.delta + 1 }
  else if c.toNat = code then
    { text := s.text ++ digits s.bias 36 s.delta
      delta := 0
      bias := adapt s.first s.delta (s.written + 1)
      written := s.written + 1
      first := false }
  else s

/-- The state after all characters of ascending codes are written, from a code on. -/
def writeCodes (label : List Char) : (start : Nat) → List Nat → State → State
  | _, [], s => s
  | start, code :: codes, s =>
    let moved := { s with delta := s.delta + (code - start) * (s.written + 1) }
    let passed := label.foldl (pass code) moved
    writeCodes label (code + 1) codes { passed with delta := passed.delta + 1 }

/-- A label that has characters above ASCII, written in ASCII. -/
def encode (label : List Char) : List Char :=
  let plain := label.filter (·.toNat < 0x80)
  let codes := ((label.map Char.toNat).filter (0x80 ≤ ·)).mergeSort.eraseDups
  let start : State :=
    { text := if plain.isEmpty then [] else plain ++ ['-']
      delta := 0, bias := 72, written := plain.length, first := true }
  (writeCodes label 0x80 codes start).text

/-! ### Reading -/

/-- The value of a digit of base thirty-six. -/
def digitValue? (c : Char) : Option Nat :=
  let n := c.toNat
  if 0x61 ≤ n ∧ n ≤ 0x7A then some (n - 0x61)
  else if 0x30 ≤ n ∧ n ≤ 0x39 then some (n - 0x30 + 26)
  else none

/-- A label being read. The number that is being read has `number` as its value so
far, and its next digit counts `weight` times. -/
structure Reading where
  text : List Char
  code : Nat := 0x80
  position : Nat := 0
  bias : Nat := 72
  first : Bool := true
  place : Nat := 36
  weight : Nat := 1
  number : Nat := 0

/-- The character of a code point, if it has one. -/
def char? (code : Nat) : Option Char :=
  if code.isValidChar then some (Char.ofNat code) else none

/-- The state after the number of a reading is complete. -/
def Reading.insert? (s : Reading) (number : Nat) : Option Reading := do
  let size := s.text.length + 1
  let moved := s.position + number
  let position := moved % size
  let code := s.code + moved / size
  let c ← char? code
  return {
    text := s.text.take position ++ c :: s.text.drop position
    code, position := position + 1
    bias := adapt s.first number size
    first := false }

/-- The state after a digit. -/
def Reading.read? (s : Reading) (c : Char) : Option Reading := do
  let d ← digitValue? c
  let number := s.number + d * s.weight
  let t := threshold s.bias s.place
  if d < t then s.insert? number
  else return { s with place := s.place + 36, weight := s.weight * (36 - t), number }

/-- A label in ASCII without its mark, cut at its last hyphen. A hyphen at the front
is no cut. -/
def cut (written : List Char) : List Char × List Char :=
  let digits := (written.reverse.takeWhile (· != '-')).reverse
  let plain := written.take (written.length - digits.length - 1)
  if plain.isEmpty then ([], written) else (plain, digits)

/-- The label that a label in ASCII without its mark stands for. -/
def decode? (written : List Char) : Option (List Char) := do
  let (plain, digits) := cut written
  let s ← digits.foldlM Reading.read? { text := plain }
  if s.weight = 1 then return s.text else none

end FrameworkUpgrade.Domain.Punycode
