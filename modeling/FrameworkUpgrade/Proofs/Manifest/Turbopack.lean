import FrameworkUpgrade.Proofs.Manifest.DevScript

/-!
# `FrameworkUpgrade.Proofs.Manifest.Turbopack`: the flag in the dev script

`Leftmost` says where a script has its first command for the development server. There is one
such place at most, and the search finds it (`split?_eq_some_iff`). `DevPlace` is everything
around the dev script of a manifest.

`turbopackRewrite` states what the rewrite does with a manifest. It replaces the first command
and keeps the place of the script, once and not again. Pins may come before it or after it.

The flag is put where the command ends, and the command ends at a word boundary. A shell ends its
words elsewhere. `flag_stands_iff` states when the flag is a word of the shell: when the command
was followed by the end of one. `flag_glued` has a script in which it was not.
-/

set_option autoImplicit false

namespace FrameworkUpgrade

namespace DevScript

/-! ### The first command -/

/-- The command stands in a script, and nowhere further to the left. -/
structure Leftmost (script before gap after : List Char) : Prop where
  command : Command none script before gap after
  first : ∀ before' gap' after', Command none script before' gap' after' →
    before.length ≤ before'.length

/-- Behind its first word a command is what it is: the blanks end at the second word. -/
theorem Command.unique {previous : Option Char}
    {text before gap after before' gap' after' : List Char}
    (h : Command previous text before gap after) (h' : Command previous text before' gap' after')
    (hlength : before.length = before'.length) :
    before = before' ∧ gap = gap' ∧ after = after' := by
  have htext := h.text_eq.symm.trans h'.text_eq
  obtain ⟨hbefore, hrest⟩ := List.append_inj htext hlength
  have hgaps := List.append_cancel_left hrest
  -- The first character of the second word is no blank.
  have hword (rest : List Char) : ∀ c ∈ ("dev".toList ++ rest).head?, Text.isBlank c = false := by
    intro c hc
    obtain rfl : c = 'd' := by simpa using hc.symm
    decide
  have hgap : gap = gap' := by
    rw [← Text.takeWhile_append_of_head (p := Text.isBlank) h.gap_blank (hword after), hgaps]
    exact Text.takeWhile_append_of_head h'.gap_blank (hword after')
  rw [hgap] at hgaps
  exact ⟨hbefore, hgap, List.append_cancel_left (List.append_cancel_left hgaps)⟩

/-- A script has one leftmost command at most. -/
theorem Leftmost.unique {script before gap after before' gap' after' : List Char}
    (h : Leftmost script before gap after) (h' : Leftmost script before' gap' after') :
    before = before' ∧ gap = gap' ∧ after = after' := by
  have hle := h.first _ _ _ h'.command
  have hge := h'.first _ _ _ h.command
  exact h.command.unique h'.command (Nat.le_antisymm hle hge)

/-- The search finds the first command. -/
theorem leftmost_of_split? {script before after : List Char}
    (h : split? script = some (before, after)) : ∃ gap, Leftmost script before gap after := by
  obtain ⟨gap, hcommand⟩ := command_of_splitFrom? h
  refine ⟨gap, hcommand, ?_⟩
  intro before' gap' after' hother
  obtain ⟨front, back, hfound, hle⟩ := exists_splitFrom?_of_command hother
  -- The search has one result, so what it finds for the other command is this one.
  rw [split?] at h
  rw [h] at hfound
  cases hfound
  exact hle

/-- The search parts a script exactly where its leftmost command stands. -/
theorem split?_eq_some_iff {script before after : List Char} :
    split? script = some (before, after) ↔ ∃ gap, Leftmost script before gap after := by
  constructor
  · exact leftmost_of_split?
  · rintro ⟨gap, h⟩
    have hruns : RunsServer script := ⟨before, gap, after, h.command⟩
    obtain ⟨⟨front, back⟩, hsplit⟩ := Option.isSome_iff_exists.mp (isSome_split?_iff.mpr hruns)
    obtain ⟨gap', h'⟩ := leftmost_of_split? hsplit
    obtain ⟨rfl, -, rfl⟩ := h.unique h'
    exact hsplit

/-- The command with the flag takes the place of the leftmost command. -/
theorem withTurbopack_of_leftmost {script before gap after : List Char}
    (h : Leftmost script before gap after) :
    withTurbopack script = before ++ turbopackCommand ++ after := by
  rw [withTurbopack, split?_eq_some_iff.mpr ⟨gap, h⟩]

/-- A command ends at a word boundary: no word character follows. -/
theorem Command.isWord_after {previous : Option Char} {text before gap after : List Char}
    (h : Command previous text before gap after) :
    ∀ c ∈ after.head?, Text.isWord c = false := by
  intro c hc
  have hright := h.right
  have hv : Text.isWord 'v' = true := by decide
  rw [hc] at hright
  simpa [Text.isWordBoundary, hv] using hright

/-! ### The flag among the characters of the new script -/

/-- The flag for Turbopack. -/
def turbopackFlag : List Char := "--turbopack".toList

/-- The command with the flag is the command, a space and the flag. -/
theorem turbopackCommand_eq : turbopackCommand = "next dev ".toList ++ turbopackFlag := by
  decide

/-- No end of the flag is a beginning of it. So two flags do not overlap. -/
theorem flag_apart {mid back after : List Char}
    (h : turbopackFlag ++ back = mid ++ (turbopackFlag ++ after)) :
    mid = [] ∨ turbopackFlag <+: mid := by
  have hborder : ∀ n < turbopackFlag.length, 0 < n →
      turbopackFlag.take n ≠ turbopackFlag.drop (turbopackFlag.length - n) := by decide
  rcases List.append_eq_append_iff.mp h with ⟨rest, hmid, -⟩ | ⟨rest, hflag, hrest⟩
  · exact .inr ⟨rest, hmid.symm⟩
  · -- The second flag begins within the first, at the rest of it.
    have hlength : turbopackFlag.length = mid.length + rest.length := by
      rw [hflag, List.length_append]
    cases hmid : mid.length with
    | zero => exact .inl (List.length_eq_zero_iff.mp hmid)
    | succ n =>
      cases hlast : rest.length with
      | zero =>
        rw [List.length_eq_zero_iff.mp hlast, List.append_nil] at hflag
        exact .inr (hflag ▸ List.prefix_refl mid)
      | succ k =>
        exfalso
        apply hborder rest.length
        · omega
        · omega
        · have hdrop : turbopackFlag.drop (turbopackFlag.length - rest.length) = rest := by
            rw [hlength, Nat.add_sub_cancel_right, hflag, List.drop_left]
          have htake : (turbopackFlag ++ after).take rest.length = rest := by
            rw [hrest, List.take_left]
          rw [hdrop, ← List.take_append_of_le_length (by omega), htake]

/-- A flag in the text before an ending that has not its last character is in the text. -/
theorem flag_infix_of_append {front ending : List Char} (hlast : 'k' ∉ ending)
    (h : turbopackFlag <:+: front ++ ending) : turbopackFlag <:+: front := by
  obtain ⟨before, after, heq⟩ := h
  have hflag : turbopackFlag = "--turbopac".toList ++ ['k'] := by decide
  rcases List.append_eq_append_iff.mp heq with ⟨mid, hfront, -⟩ | ⟨mid, hmid, hending⟩
  · exact ⟨before, mid, hfront.symm⟩
  · cases hback : mid.getLast? with
    | none =>
      rw [List.getLast?_eq_none_iff.mp hback, List.append_nil] at hmid
      exact ⟨before, [], by rw [List.append_nil, hmid]⟩
    | some c =>
      -- What reaches into the ending has the last character of the flag.
      have hc : c = 'k' := by
        have hends := congrArg List.getLast? hmid
        rw [hflag, ← List.append_assoc, List.getLast?_concat, List.getLast?_append, hback] at hends
        exact (Option.some.inj hends).symm
      have hmem : 'k' ∈ mid := hc ▸ List.mem_of_getLast? hback
      exact absurd (hending ▸ List.mem_append_left after hmem) hlast

/-- The flag has its mark in it. -/
theorem turboMark_infix_flag : turboMark <:+: turbopackFlag :=
  ⟨[], "pack".toList, by decide⟩

/-- The new script has the flag once, behind the command. -/
theorem flag_once {script before gap after front back : List Char}
    (h : Command none script before gap after) (hunflagged : ¬ turboMark <:+: script)
    (heq : before ++ turbopackCommand ++ after = front ++ (turbopackFlag ++ back)) :
    front = before ++ "next dev ".toList ∧ back = after := by
  have hbefore : ¬ turbopackFlag <:+: before := by
    intro hflag
    apply hunflagged
    refine turboMark_infix_flag.trans (hflag.trans ?_)
    rw [h.text_eq]
    exact (List.prefix_append _ _).isInfix
  have hafter : ¬ turbopackFlag <:+: after := by
    intro hflag
    apply hunflagged
    refine turboMark_infix_flag.trans (hflag.trans ?_)
    rw [h.text_eq]
    refine List.IsSuffix.isInfix ⟨before ++ ("next".toList ++ (gap ++ "dev".toList)), ?_⟩
    simp
  have hsides : (before ++ "next dev ".toList) ++ (turbopackFlag ++ after) =
      front ++ (turbopackFlag ++ back) := by
    rw [← heq, turbopackCommand_eq]
    simp
  rcases List.append_eq_append_iff.mp hsides with ⟨mid, hfront, hrest⟩ | ⟨mid, hfront, hrest⟩
  · -- A flag further to the right lies behind the command, where the old script had none.
    rcases flag_apart hrest with rfl | ⟨rest, rfl⟩
    · rw [List.append_nil] at hfront
      exact ⟨hfront, (List.append_cancel_left hrest).symm⟩
    · have hrest' : after = rest ++ (turbopackFlag ++ back) := by
        rw [List.append_assoc] at hrest
        exact List.append_cancel_left hrest
      refine absurd ⟨rest, back, ?_⟩ hafter
      rw [hrest', List.append_assoc]
  · -- One further to the left lies before the command.
    rcases flag_apart hrest with rfl | ⟨rest, rfl⟩
    · rw [List.append_nil] at hfront
      exact ⟨hfront.symm, List.append_cancel_left hrest⟩
    · have hflag : turbopackFlag <:+: before ++ "next dev ".toList := by
        refine ⟨front, rest, ?_⟩
        rw [hfront, List.append_assoc]
      exact absurd (flag_infix_of_append (by decide) hflag) hbefore

/-- A character that ends a word of a shell: a blank, a quote, or a mark between commands. -/
def endsShellWord (c : Char) : Bool :=
  Text.isBlank c || "\"'`;&|()<>".toList.contains c

/-- Wherever the flag stands in a script, a word of the shell ends behind it. -/
def FlagStands (script : List Char) : Prop :=
  ∀ front back, script = front ++ (turbopackFlag ++ back) →
    ∀ c ∈ back.head?, endsShellWord c = true

/-- The flag is a word of the shell exactly if one ended behind the old command. An unflagged script
has no other place where it could be. -/
theorem flagStands_iff {script before gap after : List Char}
    (h : Command none script before gap after) (hunflagged : ¬ turboMark <:+: script) :
    FlagStands (before ++ turbopackCommand ++ after) ↔
      ∀ c ∈ after.head?, endsShellWord c = true := by
  constructor
  · intro hstands
    apply hstands (before ++ "next dev ".toList) after
    rw [turbopackCommand_eq]
    simp
  · intro hends front back heq
    obtain ⟨-, rfl⟩ := flag_once h hunflagged heq
    exact hends

end DevScript

namespace Manifest

open Json
open DevScript (Leftmost FlagStands endsShellWord)

/-! ### The place of the dev script -/

/-- Everything around the dev script of a manifest: the other members, and the other scripts. -/
structure DevPlace where
  front : Members
  back : Members
  scriptsFront : Members
  scriptsBack : Members
  fresh : scriptSection ∉ Members.keys front
  scriptsFresh : devName ∉ Members.keys scriptsFront

namespace DevPlace

variable (place : DevPlace)

/-- The scripts with a dev script at its place. -/
def scripts (script : String) : Json :=
  .object (place.scriptsFront ++ (devName, .text script) :: place.scriptsBack)

/-- The manifest with a dev script at its place. -/
def manifest (script : String) : Manifest :=
  ⟨place.front ++ (scriptSection, place.scripts script) :: place.back⟩

/-- The dev script of the manifest is the one that was put in the place. -/
theorem devScript?_manifest (script : String) :
    (place.manifest script).devScript? = some script := by
  rw [devScript?, section?, manifest, Members.find?_append_cons place.fresh]
  show ((some _).bind (Members.find? devName)).bind text? = _
  rw [Option.bind_some, Members.find?_append_cons place.scriptsFresh]
  rfl

/-- The flag changes the dev script and keeps its place. -/
theorem update_manifest (script : String) :
    Members.update scriptSection turboScripts (place.manifest script).root =
      (place.manifest (String.ofList (DevScript.withTurbopack script.toList))).root := by
  have hscripts : turboScripts (place.scripts script) =
      place.scripts (String.ofList (DevScript.withTurbopack script.toList)) := by
    show Json.object (Members.update devName turboScript _) = _
    rw [Members.update_append_cons place.scriptsFresh]
    rfl
  rw [manifest, Members.update_append_cons place.fresh, hscripts]
  rfl

end DevPlace

/-- A manifest with a dev script has a place for it. -/
theorem exists_devPlace {m : Manifest} {script : String} (h : m.devScript? = some script) :
    ∃ place : DevPlace, m = place.manifest script := by
  obtain ⟨j, hj, htext⟩ := Option.bind_eq_some_iff.mp h
  obtain ⟨scripts, hsection, hdev⟩ := Option.bind_eq_some_iff.mp hj
  obtain ⟨k, hk, hmembers⟩ := Option.bind_eq_some_iff.mp hsection
  -- The scripts are an object, and the dev script is a text.
  obtain rfl : k = .object scripts := by
    cases k with
    | object ms =>
      cases hmembers
      rfl
    | _ => cases hmembers
  obtain rfl : j = .text script := by
    cases j with
    | text s =>
      cases htext
      rfl
    | _ => cases htext
  obtain ⟨front, back, hroot, hfresh⟩ := Members.exists_of_find? hk
  obtain ⟨scriptsFront, scriptsBack, rfl, hscriptsFresh⟩ := Members.exists_of_find? hdev
  refine ⟨⟨front, back, scriptsFront, scriptsBack, hfresh, hscriptsFresh⟩, ?_⟩
  cases m
  exact congrArg Manifest.mk hroot

variable {m : Manifest}

/-- A manifest that lacks the flag is changed among its scripts only. -/
theorem enableTurbopack_of_lacks (h : m.lacksTurbopack = true) :
    m.enableTurbopack = (⟨Members.update scriptSection turboScripts m.root⟩, true) := by
  rw [enableTurbopack, h]
  rfl

/-! ### Pins and the flag -/

/-- A pin changes sections and no scripts, so the scripts may be changed before it or after. -/
theorem pin_update_scripts (m : Manifest) (package version : String) (f : Json → Json) :
    (⟨Members.update scriptSection f m.root⟩ : Manifest).pin package version =
      ⟨Members.update scriptSection f (m.pin package version).root⟩ := by
  have hruntime : runtimeSection ≠ scriptSection := by decide
  have hdev : devSection ≠ scriptSection := by decide
  -- The scripts are no section that is pinned in, so the pin takes the same way on both sides.
  have hheld : (sections.any fun name =>
      (⟨Members.update scriptSection f m.root⟩ : Manifest).sectionHas name package) =
        sections.any (m.sectionHas · package) := by
    simp only [sections, List.any_cons, List.any_nil, sectionHas,
      (section?_update_ne hruntime), (section?_update_ne hdev)]
  unfold pin
  rw [hheld]
  split
  · show Manifest.mk (Members.update devSection _ (Members.update runtimeSection _
      (Members.update scriptSection f m.root))) = _
    rw [Members.update_comm hruntime, Members.update_comm hdev]
    rfl
  · unfold add
    rw [Members.has_update]
    split
    · rw [Members.update_comm hruntime]
    · rw [Members.put_update_comm hruntime]

/-- What a pin gives back is the version before it, and that is the same on either side of the
flag. So are both manifests. -/
theorem enableTurbopack_pin (m : Manifest) (package version : String) :
    (m.pin package version).enableTurbopack =
      (m.enableTurbopack.1.pin package version, m.enableTurbopack.2) := by
  have hscripts : scriptSection ∉ sections := by decide
  have hlacks : (m.pin package version).lacksTurbopack = m.lacksTurbopack := by
    rw [lacksTurbopack, devScript?_congr (find?_pin_of_not_mem hscripts m package version)]
    rfl
  cases h : m.lacksTurbopack with
  | true =>
    rw [enableTurbopack_of_lacks (hlacks.trans h), enableTurbopack_of_lacks h,
      pin_update_scripts]
  | false =>
    rw [enableTurbopack_of_not_lacks (hlacks.trans h), enableTurbopack_of_not_lacks h]

/-! ### The rewrite -/

/-- What the rewrite does with a manifest:

- `changed`: it says that it changes the manifest exactly when the dev script lacks the flag;
- `rewritten`: then the new manifest has another dev script in the same place, which has the
  command with the flag for the first command of the old one;
- `settled`: the new manifest does not lack the flag, and a second rewrite leaves it;
- `kept`: a rewrite that says it changes nothing changes nothing;
- `commutes`: a pin gives the same before the rewrite and after it, and so does the rewrite. -/
structure TurbopackRewrite (m : Manifest) : Prop where
  changed : m.enableTurbopack.2 = true ↔ m.lacksTurbopack = true
  rewritten : m.lacksTurbopack = true →
    ∃ (place : DevPlace) (script : String) (before gap after : List Char),
      m = place.manifest script ∧ Leftmost script.toList before gap after ∧
      m.enableTurbopack.1 =
        place.manifest (String.ofList (before ++ "next dev --turbopack".toList ++ after))
  settled : m.lacksTurbopack = true → m.enableTurbopack.1.lacksTurbopack = false ∧
    m.enableTurbopack.1.enableTurbopack = (m.enableTurbopack.1, false)
  kept : m.enableTurbopack.2 = false → m.enableTurbopack.1 = m
  commutes : ∀ package version,
    (m.pin package version).enableTurbopack =
      (m.enableTurbopack.1.pin package version, m.enableTurbopack.2) ∧
    m.enableTurbopack.1.declared? package = m.declared? package

/-- A manifest that lacks the flag is a place with a script, and the script has a first command. -/
theorem exists_leftmost (h : m.lacksTurbopack = true) :
    ∃ (place : DevPlace) (script : String) (before gap after : List Char),
      m = place.manifest script ∧ m.devScript? = some script ∧
      ¬ DevScript.turboMark <:+: script.toList ∧ Leftmost script.toList before gap after ∧
      m.enableTurbopack.1 =
        place.manifest (String.ofList (before ++ DevScript.turbopackCommand ++ after)) := by
  obtain ⟨script, hscript, hruns, hunflagged⟩ := lacksTurbopack_iff.mp h
  obtain ⟨place, hplace⟩ := exists_devPlace hscript
  obtain ⟨⟨before, after⟩, hsplit⟩ :=
    Option.isSome_iff_exists.mp (DevScript.isSome_split?_iff.mpr hruns)
  obtain ⟨gap, hleft⟩ := DevScript.leftmost_of_split? hsplit
  refine ⟨place, script, before, gap, after, hplace, hscript, hunflagged, hleft, ?_⟩
  rw [enableTurbopack_of_lacks h, hplace, place.update_manifest,
    DevScript.withTurbopack_of_leftmost hleft]

/-- A manifest that was rewritten has the flag. -/
theorem lacksTurbopack_enableTurbopack (h : m.lacksTurbopack = true) :
    m.enableTurbopack.1.lacksTurbopack = false := by
  obtain ⟨script, hscript, hruns, -⟩ := lacksTurbopack_iff.mp h
  rw [← Bool.not_eq_true, lacksTurbopack_iff]
  rintro ⟨script', hscript', -, hunflagged⟩
  rw [devScript?_enableTurbopack h, hscript, Option.map_some] at hscript'
  cases hscript'
  rw [String.toList_ofList] at hunflagged
  exact hunflagged (DevScript.turboMark_infix_withTurbopack hruns)

/-- What the rewrite does holds of every manifest. -/
theorem turbopackRewrite (m : Manifest) : TurbopackRewrite m where
  changed := by rw [enableTurbopack_snd]
  rewritten h := by
    obtain ⟨place, script, before, gap, after, hplace, -, -, hleft, hnew⟩ := exists_leftmost h
    exact ⟨place, script, before, gap, after, hplace, hleft, hnew⟩
  settled h := by
    have hsettled := lacksTurbopack_enableTurbopack h
    exact ⟨hsettled, enableTurbopack_of_not_lacks hsettled⟩
  kept h := by
    rw [enableTurbopack_snd] at h
    rw [enableTurbopack_of_not_lacks h]
  commutes package version :=
    ⟨enableTurbopack_pin m package version, declared?_enableTurbopack m package⟩

/-- Of three commands the first has a letter with an accent before it, and is none. The second is
rewritten, with the blanks inside it, between the other scripts and the other members. Another
rewrite changes nothing, and a pin may come before this one or after it. -/
theorem turbopackRewrite_accented :
    let place : DevPlace :=
      { front := [("name", .text "shop")], back := [("private", .bool true)],
        scriptsFront := [("build", .text "next build")], scriptsBack := [],
        fresh := by decide, scriptsFresh := by decide }
    let m := place.manifest "énext dev || next\u00a0\n dev; next dev"
    let m' := place.manifest "énext dev || next dev --turbopack; next dev"
    (∃ gap, Leftmost "énext dev || next\u00a0\n dev; next dev".toList "énext dev || ".toList gap
        "; next dev".toList) ∧
      m.enableTurbopack = (m', true) ∧ m'.enableTurbopack = (m', false) ∧
      (m.pin "next" "15.0.0").enableTurbopack = (m'.pin "next" "15.0.0", true) := by
  intro place m m'
  obtain ⟨-, hrewritten, hsettled, -, hcommutes⟩ := turbopackRewrite m
  have hlacks : m.lacksTurbopack = true := by decide +kernel
  obtain ⟨place', script, before, gap, after, hplace, hleft, -⟩ := hrewritten hlacks
  have hscript : m.devScript? = some script := hplace ▸ place'.devScript?_manifest script
  obtain rfl : "énext dev || next\u00a0\n dev; next dev" = script := Option.some.inj hscript
  -- The search says where the first command of the script is.
  have hsplit : DevScript.split? "énext dev || next\u00a0\n dev; next dev".toList =
      some ("énext dev || ".toList, "; next dev".toList) := by
    decide +kernel
  obtain ⟨gap', hleft'⟩ := DevScript.split?_eq_some_iff.mp hsplit
  obtain ⟨rfl, -, rfl⟩ := hleft.unique hleft'
  have hrewrite : m.enableTurbopack = (m', true) := by
    rw [enableTurbopack_of_lacks hlacks, place.update_manifest,
      DevScript.withTurbopack_of_leftmost hleft]
    rfl
  have hagain := (hsettled hlacks).2
  have hpinned := (hcommutes "next" "15.0.0").1
  rw [hrewrite] at hagain hpinned
  exact ⟨⟨gap, hleft⟩, hrewrite, hagain, hpinned⟩

/-! ### The flag as a word of the shell -/

/-- The flag in a rewritten dev script is a word of the shell exactly when a word of the shell
ended behind the first command of the old one. In any case no word character follows it. -/
theorem flag_stands_iff (h : m.lacksTurbopack = true) :
    ∃ (script new : String) (before gap after : List Char),
      m.devScript? = some script ∧ Leftmost script.toList before gap after ∧
      m.enableTurbopack.1.devScript? = some new ∧
      (∀ c ∈ after.head?, Text.isWord c = false) ∧
      (FlagStands new.toList ↔ ∀ c ∈ after.head?, endsShellWord c = true) := by
  obtain ⟨place, script, before, gap, after, -, hscript, hunflagged, hleft, hnew⟩ :=
    exists_leftmost h
  refine ⟨script, String.ofList (before ++ DevScript.turbopackCommand ++ after), before, gap,
    after, hscript, hleft, ?_, hleft.command.isWord_after, ?_⟩
  · rw [hnew]
    exact place.devScript?_manifest _
  · rw [String.toList_ofList]
    exact DevScript.flagStands_iff hleft.command hunflagged

/-- A semicolon behind the command ends a word of the shell. -/
theorem flag_stands_semicolon :
    let m : Manifest := ⟨[(scriptSection, .object [(devName, .text "next dev;vite")])]⟩
    m.lacksTurbopack = true ∧
      m.enableTurbopack.1.devScript? = some "next dev --turbopack;vite" ∧
      FlagStands "next dev --turbopack;vite".toList := by
  intro m
  have hlacks : m.lacksTurbopack = true := by decide +kernel
  have hnext : m.enableTurbopack.1.devScript? = some "next dev --turbopack;vite" := by
    decide +kernel
  refine ⟨hlacks, hnext, ?_⟩
  obtain ⟨script, new, before, gap, after, hscript, hleft, hnew, -, hiff⟩ := flag_stands_iff hlacks
  obtain rfl : "next dev;vite" = script := Option.some.inj hscript
  obtain rfl : "next dev --turbopack;vite" = new := Option.some.inj (hnext.symm.trans hnew)
  -- The search says where the first command is.
  have hsplit : DevScript.split? "next dev;vite".toList = some ([], ";vite".toList) := by
    decide +kernel
  obtain ⟨gap', hleft'⟩ := DevScript.split?_eq_some_iff.mp hsplit
  obtain ⟨-, -, rfl⟩ := hleft.unique hleft'
  rw [hiff]
  intro c hc
  obtain rfl : ';' = c := Option.some.inj hc
  decide

/-- A dash behind the command is a word boundary and ends no word of the shell: a program with
another name gets the flag, glued to the rest of its name. -/
theorem flag_glued :
    let m : Manifest := ⟨[(scriptSection, .object [(devName, .text "next dev-server")])]⟩
    m.enableTurbopack.2 = true ∧
      m.enableTurbopack.1.devScript? = some "next dev --turbopack-server" ∧
      ¬ FlagStands "next dev --turbopack-server".toList := by
  refine ⟨?_, ?_, ?_⟩
  · decide +kernel
  · decide +kernel
  · intro hstands
    have hends := hstands "next dev ".toList "-server".toList (by decide +kernel) '-' rfl
    have hdash : endsShellWord '-' = false := by decide
    rw [hdash] at hends
    cases hends

end Manifest

end FrameworkUpgrade
