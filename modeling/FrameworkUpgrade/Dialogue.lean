import FrameworkUpgrade.Fault

/-!
# `FrameworkUpgrade.Dialogue`: programs that ask

A dialogue ends with a value or a fault, or it makes a call and goes on with the
reply, or it shows a text and goes on. It says nothing about who replies. A
`Handler` does: it holds a state and answers every call from it. `Dialogue.run`
plays a dialogue against a handler, so one dialogue serves every outside there is,
and what holds of it for every handler holds of it everywhere.

The calls are a type `C`, and `Reply c` is the type of what may be answered to `c`.
Dialogues form a monad in which a fault ends the whole. `Dialogue.interpret`
replaces every call of one kind by a dialogue in calls of another kind.
-/

set_option autoImplicit false

namespace FrameworkUpgrade

/-- A program of calls. -/
inductive Dialogue {C : Type} (Reply : C → Type) (α : Type) where
  | done (a : α)
  | fail (fault : Fault)
  | say (text : String) (next : Dialogue Reply α)
  | ask (c : C) (next : Reply c → Dialogue Reply α)

namespace Dialogue

variable {C D : Type} {Reply : C → Type} {Answer : D → Type} {α β : Type}

/-- One dialogue after another, which is given the value of the first. -/
def bind (s : Dialogue Reply α) (f : α → Dialogue Reply β) : Dialogue Reply β :=
  match s with
  | .done a => f a
  | .fail fault => .fail fault
  | .say text next => .say text (next.bind f)
  | .ask c next => .ask c fun r => (next r).bind f

instance : Monad (Dialogue Reply) where
  pure := .done
  bind := bind

/-- A dialogue with another fault in the place of its own. -/
def mapFault (f : Fault → Fault) : Dialogue Reply α → Dialogue Reply α
  | .done a => .done a
  | .fail fault => .fail (f fault)
  | .say text next => .say text (next.mapFault f)
  | .ask c next => .ask c fun r => (next r).mapFault f

/-- A dialogue that ends with its fault as a value. -/
def attempt : Dialogue Reply α → Dialogue Reply (Except Fault α)
  | .done a => .done (.ok a)
  | .fail fault => .done (.error fault)
  | .say text next => .say text next.attempt
  | .ask c next => .ask c fun r => (next r).attempt

/-- The dialogue that makes one call and ends with the reply. -/
def call (c : C) : Dialogue Reply (Reply c) :=
  .ask c .done

/-- The dialogue that shows one line. -/
def line (text : String) : Dialogue Reply Unit :=
  .say (text ++ "\n") (.done ())

/-- The dialogue that ends with a value that is given, or with its fault. -/
def demand : Except Fault α → Dialogue Reply α
  | .ok a => .done a
  | .error fault => .fail fault

/-- A dialogue with a dialogue of another kind in the place of each call. -/
def interpret (f : (c : C) → Dialogue Answer (Reply c)) :
    Dialogue Reply α → Dialogue Answer α
  | .done a => .done a
  | .fail fault => .fail fault
  | .say text next => .say text (next.interpret f)
  | .ask c next => (f c).bind fun r => (next r).interpret f

end Dialogue

/-- Who answers the calls of a dialogue, from a state. -/
structure Handler {C : Type} (Reply : C → Type) (σ : Type) where
  answer : (c : C) → σ → Reply c × σ
  display : String → σ → σ

/-- A dialogue played against a handler: how it ends, and the state left behind. -/
def Dialogue.run {C : Type} {Reply : C → Type} {α σ : Type} (h : Handler Reply σ) :
    Dialogue Reply α → σ → Except Fault α × σ
  | .done a, s => (.ok a, s)
  | .fail fault, s => (.error fault, s)
  | .say text next, s => next.run h (h.display text s)
  | .ask c next, s => (next (h.answer c s).1).run h (h.answer c s).2

end FrameworkUpgrade
