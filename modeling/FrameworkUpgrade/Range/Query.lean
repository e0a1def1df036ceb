import FrameworkUpgrade.Range.Basic

/-!
# `FrameworkUpgrade.Range.Query`: what a user or a registry asks for

A query is an exact version, a dist-tag or a range, tried in this order on the
text without the blanks at its ends. An exact version may have one `=` before it,
with blanks after that, and a `v` before its first digit. A dist-tag starts with
an ASCII letter, goes on with letters, digits, `-`, `.` and `_`, and is neither a
wildcard nor a `v` before a digit.

A dist-tag holds of no version: what it names is for the registry to say.
-/

set_option autoImplicit false

namespace FrameworkUpgrade

/-- What is asked of a registry. -/
inductive Query where
  | exact (v : Version)
  | tag (name : String)
  | range (r : Range)
deriving DecidableEq, Repr

namespace Query

/-- A text without one equals sign at its front. -/
def dropEquals : List Char → List Char
  | '=' :: rest => rest
  | cs => cs

/-- The exact version that a text asks for. -/
def readExact? (cs : List Char) : Option Version :=
  Version.read? (Range.dropMark (Text.trim (dropEquals cs)))

/-- A character that a dist-tag may hold after its first. -/
def isTagChar (c : Char) : Bool :=
  c.isAlphanum || c == '-' || c == '.' || c == '_'

/-- Whether a text is a dist-tag. -/
def isTag : List Char → Bool
  | [] => false
  | c :: rest =>
    c.isAlpha && !Range.isWildcard (c :: rest) && Range.dropMark (c :: rest) == c :: rest
      && rest.all isTagChar

/-- The query that a text is, given without blanks at its ends. -/
def readTrimmed? (cs : List Char) : Option Query :=
  match readExact? cs with
  | some v => some (.exact v)
  | none => if isTag cs then some (.tag (String.ofList cs)) else (Range.read? cs).map .range

/-- The query that a text is. -/
def parse? (s : String) : Option Query :=
  readTrimmed? (Text.trim s.toList)

/-- The text of a query. -/
def text : Query → String
  | .exact v => v.text
  | .tag name => name
  | .range r => r.text

/-- Whether a query holds of a version. -/
def holds (q : Query) (v : Version) : Bool :=
  match q with
  | .exact w => w == v
  | .tag _ => false
  | .range r => r.holds v

/-- The highest of the published versions that a query holds of. What is no
version is passed over. -/
def highest? (q : Query) (published : List String) : Option Version :=
  Version.highest? ((published.filterMap fun s => Version.read? s.toList).filter q.holds)

end Query

end FrameworkUpgrade
