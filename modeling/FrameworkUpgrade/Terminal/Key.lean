/-!
# `FrameworkUpgrade.Terminal.Key`: the keys that a user presses

A terminal sends characters, and a key is one of them or a few. An escape that
nothing follows is the escape key. One that a bracket follows starts a sequence,
whose next character names the key; where it names none, the sequence is two octets
long, which are two characters of ASCII or one character beyond it. One that
anything else follows takes that character with it. Every key is read off at least
one character.
-/

set_option autoImplicit false

namespace FrameworkUpgrade

/-- A key that a user presses. All keys that mean nothing to a prompt are `other`. -/
inductive Key where
  | enter
  | escape
  | tab
  | backTab
  | up
  | down
  | character (c : Char)
  | other
deriving DecidableEq, Repr

namespace Key

/-- The character that starts an escape sequence. -/
def escapeCharacter : Char := '\x1b'

/-- The key of a character by itself. -/
def ofCharacter (c : Char) : Key :=
  if c = '\r' ∨ c = '\n' then .enter
  else if c = '\t' then .tab
  else if c = escapeCharacter then .escape
  else .character c

/-- The key that a letter names in an escape sequence. -/
def ofLetter? : Char → Option Key
  | 'A' => some .up
  | 'B' => some .down
  | 'C' => some .other
  | 'D' => some .other
  | 'F' => some .other
  | 'H' => some .other
  | 'Z' => some .backTab
  | _ => none

/-- The key of an escape sequence, after the bracket, and what follows it. -/
def readSequence : List Char → Key × List Char
  | [] => (.other, [])
  | c :: rest =>
    match ofLetter? c with
    | some key => (key, rest)
    | none => (.other, if c.toNat < 0x80 then rest.drop 1 else rest)

/-- The key that starts with the character `c`, and what follows it. -/
def readFrom (c : Char) (rest : List Char) : Key × List Char :=
  if c = escapeCharacter then
    match rest with
    | [] => (.escape, [])
    | '[' :: sequence => readSequence sequence
    | _ :: others => (.other, others)
  else (ofCharacter c, rest)

/-- Behind an escape sequence there are no more characters than before. -/
theorem length_readSequence (cs : List Char) : (readSequence cs).2.length ≤ cs.length := by
  unfold readSequence
  split
  · simp
  · split
    · simp
    · split
      · simp only [List.length_drop, List.length_cons]
        omega
      · simp

/-- A key takes at least the character that it starts with. -/
theorem length_readFrom (c : Char) (rest : List Char) :
    (readFrom c rest).2.length < (c :: rest).length := by
  unfold readFrom
  split
  · split
    · simp
    · have := length_readSequence (by assumption)
      simp only [List.length_cons]
      omega
    · simp only [List.length_cons]
      omega
  · simp

end Key

end FrameworkUpgrade
