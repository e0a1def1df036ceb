/-!
# `FrameworkUpgrade.Text.Blank`: white space, and cutting text at it

Every reader of the library works on `List Char`. This module holds the one
notion of white space that they share, the Unicode property White_Space, and the
three cuts made with it: `trim` (no blank at either end), `words` (the maximal
runs without a blank) and `lines` (a line ends at a line feed, and one carriage
return before it goes with it).
-/

set_option autoImplicit false

namespace FrameworkUpgrade.Text

/-- A character with the Unicode property White_Space. -/
def isBlank (c : Char) : Bool :=
  let n := c.toNat
  (0x09 ≤ n && n ≤ 0x0D) || n == 0x20 || n == 0x85 || n == 0xA0 || n == 0x1680
    || (0x2000 ≤ n && n ≤ 0x200A) || n == 0x2028 || n == 0x2029 || n == 0x202F
    || n == 0x205F || n == 0x3000

/-- The text without the characters at its end that satisfy `p`. -/
def dropEndWhile (p : Char → Bool) (cs : List Char) : List Char :=
  (cs.reverse.dropWhile p).reverse

/-- The text without the blanks at its two ends. -/
def trim (cs : List Char) : List Char :=
  dropEndWhile isBlank (cs.dropWhile isBlank)

/-- The maximal runs of characters that are not blank, in order. -/
def words (cs : List Char) : List (List Char) :=
  (cs.splitOnP isBlank).filter (! ·.isEmpty)

/-- A line without the one carriage return that may end it. -/
def dropReturn (line : List Char) : List Char :=
  match line.reverse with
  | '\r' :: rest => rest.reverse
  | _ => line

/-- The lines of a text. A line feed ends a line, so a text that ends in one has
no empty last line. -/
def lines (cs : List Char) : List (List Char) :=
  let parts := cs.splitOn '\n'
  (match parts.reverse with
    | [] :: rest => rest.reverse
    | _ => parts).map dropReturn

/-- Lines as text, each with a line feed at its end. -/
def unlines (ls : List String) : String :=
  String.join (ls.map (· ++ "\n"))

/-- What follows `mark` in a text that starts with it. -/
def after? : (mark cs : List Char) → Option (List Char)
  | [], cs => some cs
  | _ :: _, [] => none
  | m :: mark, c :: cs => if m = c then after? mark cs else none

/-- The text before and after the first occurrence of `mark`. -/
def cut? (mark : List Char) : List Char → Option (List Char × List Char)
  | [] => if mark.isEmpty then some ([], []) else none
  | c :: cs =>
    match after? mark (c :: cs) with
    | some rest => some ([], rest)
    | none => (cut? mark cs).map fun (before, after) => (c :: before, after)

/-- Whether `mark` occurs in the text. -/
def contains (mark cs : List Char) : Bool :=
  (cut? mark cs).isSome

end FrameworkUpgrade.Text
