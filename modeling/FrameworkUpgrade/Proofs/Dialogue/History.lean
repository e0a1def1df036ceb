import FrameworkUpgrade.Proofs.Dialogue.Course

/-!
# `FrameworkUpgrade.Proofs.Dialogue.History`: calls that the past allows

`Dialogue.Asks` says of each call on its own that it may be made. Whether a call may be made can
also depend on what was replied before it. `AsksAfter p past d` says that behind the exchanges
`past` the dialogue `d` makes only calls that `p` allows, where `p` is told all exchanges before
the call. `Told p past es` says the same of a list of exchanges, and `AsksAfter.told` that every
course of such a dialogue is one.

The rules follow the ways in which a dialogue is built, as those of `Asks` do. The past of a part
is known only when the parts before it have been played, so the rules ask for every past.
-/

set_option autoImplicit false

namespace FrameworkUpgrade

namespace Dialogue

variable {C D : Type} {Reply : C → Type} {Answer : D → Type} {α β : Type}

/-! ### Exchanges -/

/-- Behind the exchanges `past`, every call of a list is allowed by the exchanges before it. -/
def Told (p : List (Exchange Reply) → C → Prop) :
    List (Exchange Reply) → List (Exchange Reply) → Prop
  | _, [] => True
  | past, x :: es => p past x.call ∧ Told p (past ++ [x]) es

section Told

variable {p q : List (Exchange Reply) → C → Prop}

/-- Exchanges that follow others have these in their past. -/
theorem told_append (past es es' : List (Exchange Reply)) :
    Told p past (es ++ es') ↔ Told p past es ∧ Told p (past ++ es) es' := by
  induction es generalizing past with
  | nil => simp [Told]
  | cons x es ih => simp [Told, ih, and_assoc]

/-- Every call of a list is allowed by what stands before it in the list. -/
theorem Told.of_append_cons {past front back : List (Exchange Reply)} {x : Exchange Reply}
    (h : Told p past (front ++ x :: back)) : p (past ++ front) x.call :=
  ((told_append _ _ _).mp h).2.1

/-- Calls that are allowed whatever the past may be. -/
theorem told_of_forall {r : C → Prop} (hr : ∀ past c, r c → p past c)
    {es : List (Exchange Reply)} (h : ∀ x ∈ es, r x.call) (past : List (Exchange Reply)) :
    Told p past es := by
  induction es generalizing past with
  | nil => trivial
  | cons x es ih =>
    rw [List.forall_mem_cons] at h
    exact ⟨hr _ _ h.1, ih h.2 _⟩

/-- What allows a call may be replaced where nothing but the exchanges at hand is in its past. -/
theorem Told.mono {past es : List (Exchange Reply)} (h : Told p past es)
    (hpq : ∀ before ⊆ past ++ es, ∀ c, p before c → q before c) : Told q past es := by
  induction es generalizing past with
  | nil => trivial
  | cons x es ih =>
    refine ⟨hpq past (List.subset_append_left _ _) _ h.1, ih h.2 fun before hbefore => ?_⟩
    refine hpq before ?_
    rwa [List.append_cons]

end Told

/-! ### Dialogues -/

/-- Behind the exchanges `past`, the dialogue makes only calls that the exchanges before them
allow, whatever the replies are. -/
inductive AsksAfter (p : List (Exchange Reply) → C → Prop) :
    List (Exchange Reply) → Dialogue Reply α → Prop where
  | done {past : List (Exchange Reply)} (a : α) : AsksAfter p past (.done a)
  | fail {past : List (Exchange Reply)} (fault : Fault) : AsksAfter p past (.fail fault)
  | say {past : List (Exchange Reply)} (text : String) {next : Dialogue Reply α}
      (h : AsksAfter p past next) : AsksAfter p past (.say text next)
  | ask {past : List (Exchange Reply)} {c : C} (hc : p past c) {next : Reply c → Dialogue Reply α}
      (h : ∀ reply, AsksAfter p (past ++ [⟨c, reply⟩]) (next reply)) :
      AsksAfter p past (.ask c next)

variable {p : List (Exchange Reply) → C → Prop} {past : List (Exchange Reply)}

/-- The exchanges of a course are told their past. -/
theorem AsksAfter.told {d : Dialogue Reply α} (hd : d.AsksAfter p past)
    {es : List (Exchange Reply)} {r : Except Fault α} (h : d.Course es r) : Told p past es := by
  induction h generalizing past with
  | done | fail => trivial
  | say text _ ih =>
    cases hd with
    | say _ hnext => exact ih hnext
  | ask c reply _ ih =>
    cases hd with
    | ask hc hnext => exact ⟨hc, ih (hnext reply)⟩

/-- A dialogue whose calls are allowed in themselves. -/
theorem Asks.after {r : C → Prop} {d : Dialogue Reply α} (hd : d.Asks r)
    (hr : ∀ past c, r c → p past c) (past : List (Exchange Reply)) : d.AsksAfter p past := by
  induction hd generalizing past with
  | done a => exact .done a
  | fail fault => exact .fail fault
  | say text _ ih => exact .say text (ih past)
  | ask hc _ ih => exact .ask (hr _ _ hc) fun reply => ih reply _

/-- What every past says of a call holds of the calls themselves. -/
theorem AsksAfter.asks {r : C → Prop} {d : Dialogue Reply α} (hd : d.AsksAfter p past)
    (hr : ∀ past c, p past c → r c) : d.Asks r := by
  induction hd with
  | done a => exact .done a
  | fail fault => exact .fail fault
  | say text _ ih => exact .say text ih
  | ask hc _ ih => exact .ask (hr _ _ hc) ih

/-- More may be allowed. -/
theorem AsksAfter.mono {q : List (Exchange Reply) → C → Prop} {d : Dialogue Reply α}
    (hd : d.AsksAfter p past) (hpq : ∀ past c, p past c → q past c) : d.AsksAfter q past := by
  induction hd with
  | done a => exact .done a
  | fail fault => exact .fail fault
  | say text _ ih => exact .say text ih
  | ask hc _ ih => exact .ask (hpq _ _ hc) ih

/-- The second of two dialogues may make its calls whatever the first has exchanged. -/
theorem AsksAfter.bind {d : Dialogue Reply α} {f : α → Dialogue Reply β}
    (hd : d.AsksAfter p past) (hf : ∀ a past, (f a).AsksAfter p past) :
    (d >>= f).AsksAfter p past := by
  show (d.bind f).AsksAfter p past
  induction hd with
  | done a => exact hf a _
  | fail fault => exact .fail fault
  | say text _ ih => exact .say text ih
  | ask hc _ ih => exact .ask hc ih

/-- A line that is shown is no exchange. -/
theorem asksAfter_line_bind (text : String) {f : Unit → Dialogue Reply β}
    (hf : (f ()).AsksAfter p past) : (line text >>= f).AsksAfter p past :=
  .say _ hf

/-- A demanded value is not asked for. -/
theorem asksAfter_demand_bind {a : Except Fault α} {f : α → Dialogue Reply β}
    (hf : ∀ v, a = .ok v → (f v).AsksAfter p past) : (demand a >>= f).AsksAfter p past := by
  cases a with
  | ok v => exact hf v rfl
  | error fault => exact .fail fault

/-- An attempt makes the calls of what is attempted, behind the same exchanges. -/
theorem AsksAfter.attempt {d : Dialogue Reply α} (hd : d.AsksAfter p past) :
    d.attempt.AsksAfter p past := by
  induction hd with
  | done a => exact .done _
  | fail fault => exact .done _
  | say text _ ih => exact .say text ih
  | ask hc _ ih => exact .ask hc ih

/-- Calls that are replaced by dialogues are replaced by the calls of these, whatever the past of
a call may be. -/
theorem Asks.interpretAfter {r : D → Prop} {f : (c : D) → Dialogue Reply (Answer c)}
    {d : Dialogue Answer α} (hd : d.Asks r) (hf : ∀ c, r c → ∀ past, (f c).AsksAfter p past)
    (past : List (Exchange Reply)) : (d.interpret f).AsksAfter p past := by
  induction hd generalizing past with
  | done a => exact .done a
  | fail fault => exact .fail fault
  | say text _ ih => exact .say text (ih past)
  | ask hc _ ih => exact AsksAfter.bind (hf _ hc past) ih

end Dialogue

end FrameworkUpgrade
