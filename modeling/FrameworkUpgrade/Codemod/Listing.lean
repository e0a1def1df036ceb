import FrameworkUpgrade.Codemod.Builtin
import FrameworkUpgrade.Text.Blank

/-!
# `FrameworkUpgrade.Codemod.Listing`: codemods shown to the user

The shipped codemods, or those of a window whose bounds the user gives as
versions, one to a line and counted at the end.
-/

set_option autoImplicit false

namespace FrameworkUpgrade

namespace Catalog

/-- A text without one `v` at its front. -/
def dropLetter : List Char → List Char
  | 'v' :: rest => rest
  | cs => cs

/-- The version that a user gives as a bound, with or without a `v` before it. -/
def readBound (raw : String) : Except Fault Version :=
  match Version.read (dropLetter (Text.trim raw.toList)) with
  | .ok v => .ok v
  | .error fault => .error (.revision raw (.notAVersion fault))

/-- A bound of a window as it is shown. -/
def showBound (absent : String) : Option Version → String
  | some v => s!"v{v}"
  | none => absent

/-- The line above a listing. -/
def listingTitle : (after upTo : Option Version) → String
  | none, none => "Available codemods:"
  | after, upTo =>
    let first := showBound "the beginning" after
    let last := showBound "the newest release" upTo
    s!"Codemods applicable from {first} to {last}:"

/-- The lines of a listing. -/
def listingLines (cs : List Codemod) : List String :=
  if cs.isEmpty then ["  (none)"]
  else cs.map (fun c => s!"  (v{c.introduced}) {c.id} {c.title}")
    ++ ["", s!"  {cs.length} codemod(s)"]

/-- The listing that a user asks for with bounds given as text. -/
def listingText (after upTo : Option String) : Except Fault String := do
  let after ← after.mapM readBound
  let upTo ← upTo.mapM readBound
  match builtin with
  | .error fault => throw (.catalog fault)
  | .ok catalog =>
    return Text.unlines (listingTitle after upTo :: listingLines (catalog.listing after upTo))

end Catalog

end FrameworkUpgrade
