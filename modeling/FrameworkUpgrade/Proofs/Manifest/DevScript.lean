import FrameworkUpgrade.Proofs.Manifest.Pin
import FrameworkUpgrade.Proofs.Text.Pieces

/-!
# `FrameworkUpgrade.Proofs.Manifest.DevScript`: what the dev script runs

`Command` says that the command for the development server stands at some place of a text:
`next`, blanks and `dev`, with a word boundary on either side. The search finds the leftmost
such place. `command_of_splitFrom?` states that what it finds is a command, and
`exists_splitFrom?_of_command` that it finds one where there is any, and none further to the
right.

So a dev script is said to lack Turbopack when it has a command and no flag that starts with
`--turbo`, and only then (`lacksTurbopack_iff`). Pins leave the scripts as they are. The flag
goes into exactly the dev scripts that lack it, and changes them: afterwards they have the
flag, and before they did not.
-/

set_option autoImplicit false

namespace FrameworkUpgrade

namespace DevScript

/-- The mark of a flag for Turbopack. -/
def turboMark : List Char := "--turbo".toList

/-- The command stands in a text: before it some text, between its two words a gap, and
behind it the rest. The character before the whole text, if there is one, takes part in the
boundary on the left. -/
structure Command (previous : Option Char) (text before gap after : List Char) : Prop where
  text_eq : text = before ++ ("next".toList ++ (gap ++ ("dev".toList ++ after)))
  gap_ne : gap ≠ []
  gap_blank : ∀ c ∈ gap, Text.isBlank c = true
  left : Text.isWordBoundary (before.getLast?.or previous) (some 'n') = true
  right : Text.isWordBoundary (some 'v') after.head? = true

/-- A script runs the development server: the command stands somewhere in it. -/
def RunsServer (script : List Char) : Prop :=
  ∃ before gap after, Command none script before gap after

/-- The command at the front of a text, apart from the boundary on its left. -/
theorem afterCommand?_eq_some_iff {cs after : List Char} :
    afterCommand? cs = some after ↔
      ∃ gap, cs = "next".toList ++ (gap ++ ("dev".toList ++ after)) ∧ gap ≠ [] ∧
        (∀ c ∈ gap, Text.isBlank c = true) ∧
        Text.isWordBoundary (some 'v') after.head? = true := by
  constructor
  · intro h
    unfold afterCommand? at h
    split at h
    · cases h
    · rename_i blanks hnext
      split at h
      · cases h
      · rename_i hgap
        split at h
        · cases h
        · rename_i rest hdev
          split at h
          · rename_i hright
            cases h
            refine ⟨blanks.takeWhile Text.isBlank, ?_, ?_, ?_, hright⟩
            · rw [← Text.after?_eq_some hdev, List.takeWhile_append_dropWhile,
                ← Text.after?_eq_some hnext]
            · simpa using hgap
            · exact fun c hc => List.mem_takeWhile_imp hc
          · cases h
  · rintro ⟨gap, rfl, hne, hblank, hright⟩
    -- The blanks end where the second word begins.
    have hword : ∀ c ∈ ("dev".toList ++ after).head?, Text.isBlank c = false := by
      intro c hc
      obtain rfl : c = 'd' := by simpa using hc.symm
      decide
    have htake := Text.takeWhile_append_of_head (p := Text.isBlank) hblank hword
    have hdrop := Text.dropWhile_append_of_head (p := Text.isBlank) hblank hword
    unfold afterCommand?
    simp only [Text.after?_append, htake, hdrop, List.isEmpty_eq_false_iff.mpr hne, hright]
    rfl

/-- The text behind a character, and the character that then stands before it. -/
theorem command_cons_iff {previous : Option Char} {c : Char} {text before gap after : List Char} :
    Command previous (c :: text) (c :: before) gap after ↔
      Command (some c) text before gap after := by
  have hlast : (c :: before).getLast?.or previous = before.getLast?.or (some c) := by
    rw [List.getLast?_cons]
    cases before.getLast? with
    | none => rfl
    | some d => rfl
  constructor
  · rintro ⟨htext, hne, hblank, hleft, hright⟩
    exact ⟨(List.cons.inj htext).2, hne, hblank, hlast ▸ hleft, hright⟩
  · rintro ⟨rfl, hne, hblank, hleft, hright⟩
    exact ⟨rfl, hne, hblank, hlast.symm ▸ hleft, hright⟩

/-- A command at the front of a text. -/
theorem command_nil_iff {previous : Option Char} {text after : List Char} :
    (∃ gap, Command previous text [] gap after) ↔
      Text.isWordBoundary previous (some 'n') = true ∧ afterCommand? text = some after := by
  rw [afterCommand?_eq_some_iff]
  constructor
  · rintro ⟨gap, htext, hne, hblank, hleft, hright⟩
    exact ⟨hleft, gap, htext, hne, hblank, hright⟩
  · rintro ⟨hleft, gap, htext, hne, hblank, hright⟩
    exact ⟨gap, htext, hne, hblank, hleft, hright⟩

/-- What the search finds is a command. -/
theorem command_of_splitFrom? {previous : Option Char} {text before after : List Char}
    (h : splitFrom? previous text = some (before, after)) :
    ∃ gap, Command previous text before gap after := by
  induction text generalizing previous before with
  | nil => cases h
  | cons c cs ih =>
    rw [splitFrom?] at h
    split at h
    · rename_i rest hhere
      cases h
      split at hhere
      · rename_i hleft
        -- The front of the text is the first letter of the command.
        obtain ⟨gap, htext, _⟩ := afterCommand?_eq_some_iff.mp hhere
        obtain rfl : c = 'n' := (List.cons.inj htext).1
        exact command_nil_iff.mpr ⟨hleft, hhere⟩
      · cases hhere
    · obtain ⟨⟨front, back⟩, hlater, heq⟩ := Option.map_eq_some_iff.mp h
      cases heq
      obtain ⟨gap, hcommand⟩ := ih hlater
      exact ⟨gap, command_cons_iff.mpr hcommand⟩

/-- Where there is a command, the search finds one that is not further to the right. -/
theorem exists_splitFrom?_of_command {previous : Option Char}
    {text before gap after : List Char} (h : Command previous text before gap after) :
    ∃ front back, splitFrom? previous text = some (front, back) ∧
      front.length ≤ before.length := by
  induction text generalizing previous before with
  | nil => exact absurd h.text_eq (by simp)
  | cons c cs ih =>
    rw [splitFrom?]
    split
    · rename_i rest _
      exact ⟨[], rest, rfl, Nat.zero_le _⟩
    · rename_i hnone
      cases before with
      | nil =>
        -- The command stands here, so the search ends here.
        obtain rfl : c = 'n' := (List.cons.inj h.text_eq).1
        obtain ⟨hleft, hhere⟩ := command_nil_iff.mp ⟨gap, h⟩
        rw [if_pos hleft, hhere] at hnone
        cases hnone
      | cons d before =>
        obtain rfl : c = d := (List.cons.inj h.text_eq).1
        obtain ⟨front, back, hlater, hle⟩ := ih (command_cons_iff.mp h)
        exact ⟨c :: front, back, by rw [hlater]; rfl, Nat.succ_le_succ hle⟩

/-- The search finds a place in a script exactly if the script runs the server. -/
theorem isSome_split?_iff {script : List Char} :
    (split? script).isSome = true ↔ RunsServer script := by
  rw [Option.isSome_iff_exists]
  constructor
  · rintro ⟨⟨before, after⟩, hsplit⟩
    obtain ⟨gap, hcommand⟩ := command_of_splitFrom? hsplit
    exact ⟨before, gap, after, hcommand⟩
  · rintro ⟨before, gap, after, hcommand⟩
    obtain ⟨front, back, hsplit, -⟩ := exists_splitFrom?_of_command hcommand
    exact ⟨(front, back), hsplit⟩

/-- The check for the flag looks for its mark anywhere in the script. -/
theorem mentionsTurbo_iff {script : List Char} :
    mentionsTurbo script = true ↔ turboMark <:+: script :=
  Text.contains_iff

/-- A script lacks the flag exactly if it runs the server and has the mark nowhere. -/
theorem lacksTurbopack_iff {script : List Char} :
    lacksTurbopack script = true ↔ RunsServer script ∧ ¬ turboMark <:+: script := by
  rw [lacksTurbopack, Bool.and_eq_true, Bool.not_eq_true', ← Bool.not_eq_true,
    mentionsTurbo_iff, isSome_split?_iff]

/-- The flag stands in a script that runs the server, when it was put there. -/
theorem turboMark_infix_withTurbopack {script : List Char} (h : RunsServer script) :
    turboMark <:+: withTurbopack script := by
  obtain ⟨⟨before, after⟩, hsplit⟩ := Option.isSome_iff_exists.mp (isSome_split?_iff.mpr h)
  have hcommand : turbopackCommand = "next dev ".toList ++ (turboMark ++ "pack".toList) := by
    decide
  rw [withTurbopack, hsplit]
  refine ⟨before ++ "next dev ".toList, "pack".toList ++ after, ?_⟩
  simp [hcommand]

end DevScript

namespace Manifest

open Json

variable {m : Manifest} {name : String}

/-! ### The dev script of a manifest -/

/-- The dev script of a manifest runs the development server and has no flag for Turbopack. -/
theorem lacksTurbopack_iff :
    m.lacksTurbopack = true ↔ ∃ script, m.devScript? = some script ∧
      DevScript.RunsServer script.toList ∧ ¬ DevScript.turboMark <:+: script.toList := by
  rw [lacksTurbopack]
  cases m.devScript? with
  | none => simp
  | some script => simp [DevScript.lacksTurbopack_iff]

/-- A pin leaves every member that is no section. -/
theorem find?_pin_of_not_mem (h : name ∉ sections) (m : Manifest) (package version : String) :
    Members.find? name (m.pin package version).root = Members.find? name m.root := by
  rw [mem_sections, not_or] at h
  unfold pin add
  split
  · show Members.find? name (Members.update devSection _ (Members.update runtimeSection _ m.root))
      = _
    rw [Members.find?_update_ne h.2, Members.find?_update_ne h.1]
  · split
    · exact Members.find?_update_ne h.1 _ _
    · exact Members.find?_put_ne h.1 _ _

/-- The scripts decide what the dev script is. -/
theorem devScript?_congr {m m' : Manifest}
    (h : Members.find? scriptSection m'.root = Members.find? scriptSection m.root) :
    m'.devScript? = m.devScript? := by
  rw [devScript?, devScript?, section?, section?, h]

/-- The rewrite says that it changes something exactly if the dev script lacks the flag. -/
theorem enableTurbopack_snd (m : Manifest) : m.enableTurbopack.2 = m.lacksTurbopack := by
  rw [enableTurbopack]
  cases m.lacksTurbopack with
  | true => rfl
  | false => rfl

/-- A manifest that does not lack the flag is left as it is. -/
theorem enableTurbopack_of_not_lacks (h : m.lacksTurbopack = false) :
    m.enableTurbopack = (m, false) := by
  rw [enableTurbopack, h]
  rfl

/-- The dev script with the flag, where there was one without it. -/
theorem devScript?_enableTurbopack (h : m.lacksTurbopack = true) :
    m.enableTurbopack.1.devScript? =
      m.devScript?.map fun script => String.ofList (DevScript.withTurbopack script.toList) := by
  -- A section and a script are changed if they have the right form, and left otherwise.
  have hscripts (j : Json) : (turboScripts j).members? =
      j.members?.map (Members.update devName turboScript) := by
    cases j <;> rfl
  have htext (j : Json) : (turboScript j).text? =
      j.text?.map fun script => String.ofList (DevScript.withTurbopack script.toList) := by
    cases j <;> rfl
  have hmanifest : m.enableTurbopack.1 = ⟨Members.update scriptSection turboScripts m.root⟩ := by
    rw [enableTurbopack, h]
    rfl
  rw [hmanifest, devScript?, section?_update_self hscripts, devScript?]
  cases m.section? scriptSection with
  | none => rfl
  | some ms =>
    rw [Option.map_some, Option.bind_some, Option.bind_some, Members.find?_update_self]
    cases Members.find? devName ms with
    | none => rfl
    | some j => exact htext j

end Manifest

end FrameworkUpgrade
