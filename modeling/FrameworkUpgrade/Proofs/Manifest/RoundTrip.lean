import FrameworkUpgrade.Manifest.DevScript
import FrameworkUpgrade.Proofs.Json.RoundTrip

/-!
# `FrameworkUpgrade.Proofs.Manifest.RoundTrip`: a manifest is read back from its text

`read_chars_edited` is the round trip: a manifest that was read from a text and changed by any
sequence of `Edit`s is read back from its own text, with every key in its place, when its numbers
are integers. So what an upgrade writes to `package.json` is the manifest that it holds, and
reading and writing it once more changes nothing.

The invariant is `IsWritable`: a manifest that keeps to the limits of the reader. What is read is
writable, each edit keeps a manifest writable, and a writable manifest is read back. An edit makes
at most one container, the section of the packages that a project runs with, and its members are
texts, so there is always room for it.
-/

set_option autoImplicit false

namespace FrameworkUpgrade

namespace Manifest

open Json

/-- A change to a manifest. -/
inductive Edit where
  /-- A package is pinned to a version. -/
  | pin (package version : String)
  /-- Turbopack is put into the dev script. -/
  | turbopack
deriving DecidableEq, Repr

/-- The manifest after a change. -/
def Edit.apply (m : Manifest) : Edit → Manifest
  | .pin package version => m.pin package version
  | .turbopack => m.enableTurbopack.1

/-- The manifest after changes, one after another. -/
def edited (m : Manifest) (edits : List Edit) : Manifest :=
  edits.foldl Edit.apply m

/-- The numbers in a manifest. -/
def numbers (m : Manifest) : List Number :=
  memberNumbers m.root

/-- A manifest keeps to the limits of the reader, and its numbers are integers. -/
def IsWritable (m : Manifest) : Prop :=
  Within Number.Exact maxDepth (.object m.root)

/-- A manifest that was read keeps to the limits of the reader, so it is writable if its numbers are
integers. -/
theorem isWritable_of_read {cs : List Char} {m : Manifest} (hread : read cs = .ok m)
    (hnumbers : ∀ n ∈ m.numbers, n.isInt = true) : m.IsWritable := by
  unfold read at hread
  split at hread
  · cases hread
  · rename_i ms hjson
    cases hread
    exact (within_of_read hjson).of_numbers fun n hn hfits => exact_of_isInt hfits (hnumbers n hn)
  · cases hread

namespace IsWritable

variable {m : Manifest}

/-- A pin writes texts into the sections. A section that it makes has room below the manifest. -/
theorem pin (h : m.IsWritable) (package version : String) : (m.pin package version).IsWritable := by
  -- A pin changes a section in one of three ways, and each of them needs no more room.
  have hrepin (room : Nat) (j : Json) (hj : Within Number.Exact room j) :
      Within Number.Exact room (repinSection package version j) := by
    cases j with
    | object ms => exact hj.update (fun _ _ _ => .text _) package
    | _ => exact hj
  have haddTo (room : Nat) (j : Json) (hj : Within Number.Exact room j) :
      Within Number.Exact room (addTo package version j) := by
    cases j with
    | object ms =>
      cases room with
      | zero => cases hj
      | succ room => exact hj.put package (.text _)
    | _ => exact hj
  have hnew : Within Number.Exact 126 (.object [(package, .text version)]) := by
    refine .object (List.pairwise_singleton _ _) fun m hm => ?_
    rw [List.mem_singleton.mp hm]
    exact .text _
  unfold Manifest.pin add
  split
  · exact (Within.update h hrepin runtimeSection).update hrepin devSection
  · split
    · exact Within.update h haddTo runtimeSection
    · exact Within.put h runtimeSection hnew

/-- The flag in the dev script keeps a manifest writable: a text takes the place of another. -/
theorem enableTurbopack (h : m.IsWritable) : m.enableTurbopack.1.IsWritable := by
  have hscript (room : Nat) (j : Json) (hj : Within Number.Exact room j) :
      Within Number.Exact room (turboScript j) := by
    cases j with
    | text s => exact .text _
    | _ => exact hj
  have hscripts (room : Nat) (j : Json) (hj : Within Number.Exact room j) :
      Within Number.Exact room (turboScripts j) := by
    cases j with
    | object ms => exact hj.update hscript devName
    | _ => exact hj
  unfold Manifest.enableTurbopack
  split
  · exact Within.update h hscripts scriptSection
  · exact h

/-- Any number of changes keep a manifest writable. -/
theorem edited (h : m.IsWritable) (edits : List Edit) : (m.edited edits).IsWritable := by
  induction edits generalizing m with
  | nil => exact h
  | cons e edits ih =>
    cases e with
    | pin package version => exact ih (h.pin package version)
    | turbopack => exact ih h.enableTurbopack

/-- A writable manifest is read back from its text. -/
theorem read_chars (h : m.IsWritable) : read m.chars = .ok m := by
  rw [read, chars, Json.read_chars h]

end IsWritable

/-- A manifest that was read from a text, with whatever changes, is read back from its own text,
and the text of what is read is the same once more.

The condition on numbers is one on the text that was read: a number is an integer when it has
neither fraction nor exponent, is not minus zero and fits in 64 bits (`Literal.value?_eq_int_iff`),
and numbers under a key that is written again do not count. -/
theorem read_chars_edited {cs : List Char} {m : Manifest} (hread : read cs = .ok m)
    (hnumbers : ∀ n ∈ m.numbers, n.isInt = true) (edits : List Edit) :
    read (m.edited edits).chars = .ok (m.edited edits) ∧
      (read (m.edited edits).chars).map chars = .ok (m.edited edits).chars := by
  have hback := ((isWritable_of_read hread hnumbers).edited edits).read_chars
  refine ⟨hback, ?_⟩
  rw [hback]
  rfl

/-- A key is written twice, and of the two numbers that are kept one is the least and one the
greatest. The changes put the flag into the dev script and make a section. -/
theorem read_chars_edited_twice :
    let text := "\x7b\"a\": 1, \"b\":[ -9223372036854775808,18446744073709551615, [] ],\"a\":" ++
      "\"\\u0001\\ud83d\\ude00\\/\", \"scripts\" : \x7b\"dev\":\"next dev\"\x7d\x7d"
    let edits := [.turbopack, .pin "next" "15.0.0"]
    ∃ m, read text.toList = .ok m ∧
      m.numbers = [.int (-9223372036854775808), .int 18446744073709551615] ∧
      read (m.edited edits).chars = .ok (m.edited edits) := by
  intro text edits
  have hparsed : (read text.toList).toOption.map numbers =
      some [.int (-9223372036854775808), .int 18446744073709551615] := by decide +kernel
  obtain ⟨m, hread, hnumbers⟩ := Option.map_eq_some_iff.mp hparsed
  have hints : ∀ n ∈ m.numbers, n.isInt = true := by
    rw [hnumbers]
    decide
  refine ⟨m, toOption_eq_some.mp hread, hnumbers, ?_⟩
  exact (read_chars_edited (toOption_eq_some.mp hread) hints edits).1

end Manifest

end FrameworkUpgrade
