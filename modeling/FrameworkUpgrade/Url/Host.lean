import FrameworkUpgrade.Domain.Basic
import FrameworkUpgrade.Url.Percent

/-!
# `FrameworkUpgrade.Url.Host`: the host of a URL

A host is a name, an address of thirty-two bits or one of eight groups of sixteen
bits. A name whose last label is a number has to be an address: up to four numbers,
each in base ten, eight or sixteen, of which the last fills all the octets that the
others leave. In a URL of a scheme that knows no such rules a host is any text
without the characters that end one.
-/

set_option autoImplicit false

namespace FrameworkUpgrade.Url

/-- The host of a URL. -/
inductive Host where
  | name (text : List Char)
  | ipv4 (address : Nat)
  | ipv6 (groups : List Nat)
deriving DecidableEq, Repr

namespace Host

/-! ### Addresses of thirty-two bits -/

/-- The base in which a number is written, and its digits. -/
def basis : List Char → Nat × List Char
  | '0' :: 'x' :: digits => (16, digits)
  | '0' :: 'X' :: digits => (16, digits)
  | '0' :: c :: digits => (8, c :: digits)
  | digits => (10, digits)

/-- The number that digits of a base stand for, one digit after another. -/
def numberOf? (base : Nat) (digits : List Char) : Option Nat :=
  digits.foldlM (fun n c => do
    let d ← Text.hexValue? c
    if d < base then some (base * n + d) else none) 0

/-- The number in one part of an address. -/
def number? (part : List Char) : Option Nat :=
  if part.isEmpty then none
  else numberOf? (basis part).1 (basis part).2

/-- The labels of a name, without an empty one at the end. -/
def labels (name : List Char) : List (List Char) :=
  match (name.splitOn '.').reverse with
  | [] :: l :: rest => (l :: rest).reverse
  | all => all.reverse

/-- Whether the last label of a name is a number. -/
def endsInNumber (name : List Char) : Bool :=
  match (labels name).getLast? with
  | none => false
  | some label => (!label.isEmpty && label.all (·.isDigit)) || (number? label).isSome

/-- The address of numbers, the last of which fills what the others leave. -/
def address? (numbers : List Nat) : Option Nat :=
  match numbers.reverse with
  | [] => none
  | last :: others =>
    if others.length ≤ 3 && others.all (· ≤ 255) && last < Nat.pow 256 (4 - others.length) then
      let high := others.reverse.foldl (fun n d => 256 * n + d) 0
      some (high * Nat.pow 256 (4 - others.length) + last)
    else none

/-- The address that a name stands for. -/
def ipv4? (name : List Char) : Option Nat :=
  (labels name).mapM number? >>= address?

/-! ### Addresses of eight groups -/

/-- A group of up to four digits. -/
def group? (part : List Char) : Option Nat :=
  if part.isEmpty || part.length > 4 then none else numberOf? 16 part

/-- An octet in base ten without zeros before it. -/
def octet? (part : List Char) : Option Nat :=
  if part.isEmpty || part.length > 3 || (part.length > 1 && part.head? == some '0') then none
  else (numberOf? 10 part).filter (· ≤ 255)

/-- The two groups of four octets. -/
def dotted? (part : List Char) : Option (List Nat) :=
  match (part.splitOn '.').mapM octet? with
  | some [a, b, c, d] => some [256 * a + b, 256 * c + d]
  | _ => none

/-- The groups in a text without a gap. The last two may be written as octets. -/
def groups? (withOctets : Bool) (text : List Char) : Option (List Nat) :=
  if text.isEmpty then some []
  else match (text.splitOn ':').reverse with
    | [] => some []
    | last :: others => do
      let front ← others.reverse.mapM group?
      let back ← if withOctets && last.contains '.' then dotted? last
        else (group? last).map ([·])
      return front ++ back

/-- The address of eight groups in a text, in which one gap stands for the zeros
that are missing. -/
def ipv6? (text : List Char) : Option (List Nat) :=
  match Text.cut? [':', ':'] text with
  | none => (groups? true text).filter (·.length == 8)
  | some (before, after) => do
    let front ← groups? false before
    let back ← groups? true after
    if front.length + back.length < 8 then
      some (front ++ List.replicate (8 - front.length - back.length) 0 ++ back)
    else none

/-! ### Names -/

/-- A character that no name may hold in its one spelling. -/
def isForbidden (c : Char) : Bool :=
  c.toNat ≤ 0x20 || c.toNat == 0x7F
    || ['%', '#', '/', ':', '<', '>', '?', '@', '[', '\\', ']', '^', '|'].contains c

/-- The name that a text stands for, if it may be one. -/
def name? (text : List Char) : Option (List Char) := do
  let normal ← Domain.normal? (Text.Utf8.showFrom Text.Utf8.replacement none (unescape text))
  if normal.any isForbidden then none
  else (Domain.ascii? normal).filter (! ·.isEmpty)

/-! ### Hosts -/

/-- The text between the brackets of an address. -/
def bracketed? : List Char → Option (List Char)
  | '[' :: rest =>
    match rest.reverse with
    | ']' :: inner => some inner.reverse
    | _ => none
  | _ => none

/-- The host in a URL of a scheme that knows hosts. -/
def read? (text : List Char) : Option Host :=
  if text.head? == some '[' then (bracketed? text >>= ipv6?).map .ipv6
  else do
    let name ← name? text
    if endsInNumber name then (ipv4? name).map .ipv4 else some (.name name)

/-- A character that ends a host, or that no host may hold. -/
def endsHost (c : Char) : Bool :=
  ['\x00', '\t', '\n', '\r', ' ', '#', '/', ':', '<', '>', '?', '@', '[', '\\', ']', '^',
    '|'].contains c

/-- The host in a URL of any other scheme. -/
def readOpaque? (text : List Char) : Option Host :=
  if text.head? == some '[' then (bracketed? text >>= ipv6?).map .ipv6
  else if text.any endsHost then none
  else some (.name (escape mayStandInOpaque text))

/-! ### Printing -/

/-- A number in base ten. -/
def decimal (n : Nat) : List Char :=
  n.repr.toList

/-- The four octets of an address. -/
def ipv4Text (n : Nat) : List Char :=
  ['.'].intercalate ([n / 16777216, n / 65536 % 256, n / 256 % 256, n % 256].map decimal)

/-- The length of the run of zeros at the front of groups. -/
def zeros (groups : List Nat) : Nat :=
  (groups.takeWhile (· == 0)).length

/-- Where the first longest run of at least two zeros starts, and how long it is. -/
def gap? (groups : List Nat) : Option (Nat × Nat) :=
  let runs := (List.range groups.length).map fun i => (i, zeros (groups.drop i))
  let longest := (runs.map Prod.snd).foldl max 0
  if longest < 2 then none else runs.find? (·.2 == longest)

/-- Groups with colons between them. -/
def groupsText (groups : List Nat) : List Char :=
  [':'].intercalate (groups.map (Nat.toDigits 16))

/-- Groups with a gap in the place of the first longest run of zeros. -/
def ipv6Text (groups : List Nat) : List Char :=
  match gap? groups with
  | none => groupsText groups
  | some (start, size) =>
    groupsText (groups.take start) ++ [':', ':'] ++ groupsText (groups.drop (start + size))

/-- The text of a host. -/
def text : Host → List Char
  | .name text => text
  | .ipv4 address => ipv4Text address
  | .ipv6 groups => '[' :: ipv6Text groups ++ [']']

end Host

end FrameworkUpgrade.Url
