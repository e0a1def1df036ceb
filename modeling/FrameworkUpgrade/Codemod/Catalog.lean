import FrameworkUpgrade.Fault
import FrameworkUpgrade.Version.Order

/-!
# `FrameworkUpgrade.Codemod.Catalog`: codemods by the release that introduced them

A catalog lists codemods from the oldest to the newest, which is also the order
in which they are applied. It is made from entries that are checked one by one:
the identifier has not occurred, the version is one, and it is not older than the
version of the entry before. The first entry that fails a check is the one
reported, and of its checks the first in this order.

The codemods of an upgrade are those introduced after the installed version and
not after the target: a segment of the catalog, whose two ends are found by
bisection.
-/

set_option autoImplicit false

namespace FrameworkUpgrade

/-- A transformation of source code that a release asks for. -/
structure Codemod where
  id : String
  title : String
  introduced : Version
deriving DecidableEq, Repr, Inhabited

/-- A codemod as it is listed, with the version still as text. -/
structure CodemodEntry where
  id : String
  title : String
  version : String
deriving DecidableEq, Repr

/-- Codemods in the order of the releases that introduced them. -/
structure Catalog where
  codemods : List Codemod
deriving DecidableEq, Repr

/-- The number of leading elements that satisfy `p`, by bisection. The list holds
all elements that satisfy `p` before all others. -/
def bisect {α : Type} (p : α → Bool) (xs : List α) : Nat :=
  let middle := xs.length / 2
  match h : xs[middle]? with
  | none => 0
  | some x =>
    if p x then middle + 1 + bisect p (xs.drop (middle + 1)) else bisect p (xs.take middle)
termination_by xs.length
decreasing_by
  all_goals
    have := (List.getElem?_eq_some_iff.mp h).1
    simp only [List.length_drop, List.length_take]
    omega

namespace Catalog

/-- The codemod of an entry that may come after the codemod `previous`. -/
def checkEntry (seen : List String) (previous : Option Codemod) (e : CodemodEntry) :
    Except CatalogFault Codemod :=
  if e.id ∈ seen then .error (.duplicate e.id)
  else match Version.parse e.version with
    | .error fault => .error (.invalidVersion e.id e.version fault)
    | .ok introduced =>
      match previous with
      | none => .ok ⟨e.id, e.title, introduced⟩
      | some p =>
        if Version.isNewer p.introduced introduced then
          .error (.outOfOrder e.id introduced p.id p.introduced)
        else .ok ⟨e.id, e.title, introduced⟩

/-- The codemods of entries that come after those in `seen`, of which the last is
`previous`. -/
def checkEntries (seen : List String) (previous : Option Codemod) :
    List CodemodEntry → Except CatalogFault (List Codemod)
  | [] => .ok []
  | e :: es => do
    let c ← checkEntry seen previous e
    let cs ← checkEntries (e.id :: seen) (some c) es
    return c :: cs

/-- The catalog of a list of entries. -/
def ofEntries (es : List CodemodEntry) : Except CatalogFault Catalog := do
  return ⟨← checkEntries [] none es⟩

/-- Whether a codemod was introduced by the version `v` or before. -/
def isUpTo (v : Version) (c : Codemod) : Bool :=
  (compare c.introduced v).isLE

/-- The codemods introduced after `installed` and not after `target`, for an
upgrade between the two. -/
def window (c : Catalog) (installed target : Version) : List Codemod :=
  if Version.isNewer target installed then
    (c.codemods.take (bisect (isUpTo target) c.codemods)).drop
      (bisect (isUpTo installed) c.codemods)
  else []

/-- The codemods introduced after `after` and not after `upTo`. A bound that is
not given leaves its side open. -/
def listing (c : Catalog) (after upTo : Option Version) : List Codemod :=
  match after, upTo with
  | some installed, some target => c.window installed target
  | _, _ =>
    (c.codemods.filter fun m => after.all fun v => !isUpTo v m).filter fun m =>
      upTo.all fun v => isUpTo v m

end Catalog

end FrameworkUpgrade
