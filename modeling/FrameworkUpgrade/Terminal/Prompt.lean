import FrameworkUpgrade.Machine.OsFault
import FrameworkUpgrade.Terminal.Key

/-!
# `FrameworkUpgrade.Terminal.Prompt`: prompts answered by keys

A prompt has a state, and a key changes it, answers the prompt or cancels it. The
prompt for yes or no has one state: a key that means nothing to it leaves it as it
is. The prompt for several answers is a menu, in which a cursor moves round over
the entries and every entry is checked or not. Its answer is the positions of the
checked entries in ascending order.

`play` answers a prompt with the characters that are typed.
-/

set_option autoImplicit false

namespace FrameworkUpgrade

/-- What a key does to a prompt. -/
inductive Press (σ α : Type) where
  | goOn (state : σ)
  | answer (a : α)
  | cancel
deriving DecidableEq, Repr

namespace Prompt

/-- The answer of a user who types characters at a prompt, none if the user
cancels it, and the characters that are left. -/
def play {σ α : Type} (press : σ → Key → Press σ α) (state : σ) (typed : List Char) :
    Except OsFault (Option α) × List Char :=
  match typed with
  | [] => (.error .noMoreKeys, [])
  | c :: cs =>
    match press state (Key.readFrom c cs).1 with
    | .goOn next => play press next (Key.readFrom c cs).2
    | .answer a => (.ok (some a), (Key.readFrom c cs).2)
    | .cancel => (.ok none, (Key.readFrom c cs).2)
termination_by typed.length
decreasing_by exact Key.length_readFrom c cs

/-- What a key does to the prompt for yes or no. -/
def pressConfirm (byDefault : Bool) (_ : Unit) : Key → Press Unit Bool
  | .character 'y' => .answer true
  | .character 'Y' => .answer true
  | .character 'n' => .answer false
  | .character 'N' => .answer false
  | .enter => .answer byDefault
  | .escape => .cancel
  | .character 'q' => .cancel
  | _ => .goOn ()

end Prompt

/-- A menu: the position of the cursor, and for every entry whether it is checked. -/
structure Menu where
  cursor : Nat
  checked : List Bool
deriving DecidableEq, Repr

namespace Menu

/-- The menu with the cursor on the next entry. -/
def down (m : Menu) : Menu :=
  { m with cursor := (m.cursor + 1) % m.checked.length }

/-- The menu with the cursor on the entry before. -/
def up (m : Menu) : Menu :=
  { m with cursor := (m.cursor + m.checked.length - 1) % m.checked.length }

/-- The menu with the entry under the cursor changed. -/
def toggle (m : Menu) : Menu :=
  { m with checked := m.checked.modify m.cursor (! ·) }

/-- The menu with all entries checked, or with none if all were. -/
def toggleAll (m : Menu) : Menu :=
  { m with checked := m.checked.map fun _ => !m.checked.all id }

/-- The positions of the checked entries. -/
def positions (m : Menu) : List Nat :=
  (m.checked.zipIdx.filter Prod.fst).map Prod.snd

/-- What a key does to a menu. -/
def press (m : Menu) : Key → Press Menu (List Nat)
  | .down => .goOn m.down
  | .tab => .goOn m.down
  | .character 'j' => .goOn m.down
  | .up => .goOn m.up
  | .backTab => .goOn m.up
  | .character 'k' => .goOn m.up
  | .character ' ' => .goOn m.toggle
  | .character 'a' => .goOn m.toggleAll
  | .enter => .answer m.positions
  | .escape => .cancel
  | .character 'q' => .cancel
  | _ => .goOn m

end Menu

end FrameworkUpgrade
