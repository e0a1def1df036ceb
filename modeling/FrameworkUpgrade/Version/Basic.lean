/-!
# `FrameworkUpgrade.Version.Basic`: semantic versions and their text

A version has three numbers, the identifiers of a pre-release and the
identifiers of the build metadata. A version without pre-release is a release.
`Version.chars` is its one written form: the numbers with dots, then `-` and the
pre-release, then `+` and the build metadata, each only where it is not empty.
-/

set_option autoImplicit false

namespace FrameworkUpgrade

/-- One dot-separated part of a pre-release or of build metadata. -/
abbrev Identifier := List Char

/-- A semantic version. -/
structure Version where
  major : Nat
  minor : Nat
  patch : Nat
  pre : List Identifier := []
  build : List Identifier := []
deriving DecidableEq, Repr, Inhabited

namespace Version

/-- A number in decimal digits, without leading zeros. -/
def numberChars (n : Nat) : List Char :=
  Nat.toDigits 10 n

/-- Identifiers with dots between them. -/
def identifierChars (ids : List Identifier) : List Char :=
  List.intercalate ['.'] ids

/-- A part that is written after its mark, and not at all when it is empty. -/
def partChars (mark : Char) : List Identifier → List Char
  | [] => []
  | ids => mark :: identifierChars ids

/-- The three numbers with dots between them. -/
def coreChars (v : Version) : List Char :=
  numberChars v.major ++ '.' :: numberChars v.minor ++ '.' :: numberChars v.patch

/-- The written form of a version. -/
def chars (v : Version) : List Char :=
  v.coreChars ++ partChars '-' v.pre ++ partChars '+' v.build

/-- The written form of a version, as text. -/
def text (v : Version) : String :=
  String.ofList v.chars

instance : ToString Version := ⟨text⟩

/-- A version without pre-release. -/
def isRelease (v : Version) : Bool :=
  v.pre.isEmpty

end Version

end FrameworkUpgrade
