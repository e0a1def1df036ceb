import FrameworkUpgrade.Manifest.Basic
import FrameworkUpgrade.Text.Blank
import FrameworkUpgrade.Text.Word

/-!
# `FrameworkUpgrade.Manifest.DevScript`: Turbopack in the dev script

The dev script of a project runs the development server when it has `next`, one
or more blanks and `dev`, with a word boundary on either side. `enableTurbopack`
replaces the leftmost such command by one with the flag `--turbopack`, unless the
script already has a flag that starts with `--turbo`.
-/

set_option autoImplicit false

namespace FrameworkUpgrade

namespace DevScript

/-- What follows the command at the front of a text, when the text starts with
it and a word boundary comes after. -/
def afterCommand? (cs : List Char) : Option (List Char) :=
  match Text.after? "next".toList cs with
  | none => none
  | some blanks =>
    if (blanks.takeWhile Text.isBlank).isEmpty then none
    else match Text.after? "dev".toList (blanks.dropWhile Text.isBlank) with
      | none => none
      | some rest => if Text.isWordBoundary (some 'v') rest.head? then some rest else none

/-- The text before the leftmost command and the text after it. The character
before the text at hand, if there is one, decides where a word begins. -/
def splitFrom? (previous : Option Char) : List Char → Option (List Char × List Char)
  | [] => none
  | c :: cs =>
    let here := if Text.isWordBoundary previous (some c) then afterCommand? (c :: cs) else none
    match here with
    | some rest => some ([], rest)
    | none => (splitFrom? (some c) cs).map fun (before, after) => (c :: before, after)

/-- The text before the leftmost command of a script and the text after it. -/
def split? (script : List Char) : Option (List Char × List Char) :=
  splitFrom? none script

/-- Whether a script has a flag for Turbopack. -/
def mentionsTurbo (script : List Char) : Bool :=
  Text.contains "--turbo".toList script

/-- Whether a script runs the development server without Turbopack. -/
def lacksTurbopack (script : List Char) : Bool :=
  (split? script).isSome && !mentionsTurbo script

/-- The command with the flag. -/
def turbopackCommand : List Char := "next dev --turbopack".toList

/-- A script with the flag behind its leftmost command. -/
def withTurbopack (script : List Char) : List Char :=
  match split? script with
  | some (before, rest) => before ++ turbopackCommand ++ rest
  | none => script

end DevScript

namespace Manifest

open Json

/-- The section of the scripts. -/
def scriptSection : String := "scripts"

/-- The name of the script that starts the development server. -/
def devName : String := "dev"

/-- The script that starts the development server. -/
def devScript? (m : Manifest) : Option String :=
  ((m.section? scriptSection).bind (Members.find? devName)).bind Json.text?

/-- Whether the dev script runs the development server without Turbopack. -/
def lacksTurbopack (m : Manifest) : Bool :=
  m.devScript?.any fun script => DevScript.lacksTurbopack script.toList

/-- A script with the flag, where it is a text. -/
def turboScript : Json → Json
  | .text script => .text (String.ofList (DevScript.withTurbopack script.toList))
  | other => other

/-- Scripts with the flag in the dev script. What is no object stays. -/
def turboScripts : Json → Json
  | .object ms => .object (Members.update devName turboScript ms)
  | other => other

/-- The manifest with the flag in its dev script, and whether the script changed. -/
def enableTurbopack (m : Manifest) : Manifest × Bool :=
  if m.lacksTurbopack then (⟨Members.update scriptSection turboScripts m.root⟩, true)
  else (m, false)

end Manifest

end FrameworkUpgrade
