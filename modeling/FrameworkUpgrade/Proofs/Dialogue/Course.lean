import FrameworkUpgrade.Dialogue

/-!
# `FrameworkUpgrade.Proofs.Dialogue.Course`: everything a dialogue can do

`Dialogue.exchanges` is the list of calls that a dialogue makes when it is played against
a handler, each with the reply to it. `Dialogue.Course` says the same without a handler:
`d.Course es r` holds when there are replies under which `d` makes the exchanges `es` and
ends with `r`. `course_run` states that every play is a course, so a fact about all
courses is a fact about all handlers and all their states.

A course is taken apart along the dialogue. `course_bind` is the step for one dialogue
after another, and the lemmas beside it cover the other ways in which a dialogue is built.
Two properties of a dialogue are kept by all of them: `Asks p` says that it makes only
calls that satisfy `p`, and `Unfailing` that it does not end with a fault.

The three are inductive and no functions on the dialogue, although they follow it: Lean
then leaves a dialogue as it stands and does not run it to see what a statement says.
-/

set_option autoImplicit false

namespace FrameworkUpgrade

/-- A call, and the reply to it. -/
structure Exchange {C : Type} (Reply : C → Type) where
  call : C
  reply : Reply call

namespace Dialogue

variable {C D : Type} {Reply : C → Type} {Answer : D → Type} {α β σ : Type}

/-- The exchanges of a dialogue that is played against a handler, in order. -/
def exchanges (h : Handler Reply σ) : Dialogue Reply α → σ → List (Exchange Reply)
  | .done _, _ => []
  | .fail _, _ => []
  | .say text next, s => next.exchanges h (h.display text s)
  | .ask c next, s =>
    ⟨c, (h.answer c s).1⟩ :: (next (h.answer c s).1).exchanges h (h.answer c s).2

/-- The dialogue can make some exchanges and end in some way. -/
inductive Course : Dialogue Reply α → List (Exchange Reply) → Except Fault α → Prop where
  | done (a : α) : Course (.done a) [] (.ok a)
  | fail (fault : Fault) : Course (.fail fault) [] (.error fault)
  | say (text : String) {next : Dialogue Reply α} {es : List (Exchange Reply)}
      {r : Except Fault α} (h : Course next es r) : Course (.say text next) es r
  | ask (c : C) {next : Reply c → Dialogue Reply α} (reply : Reply c)
      {es : List (Exchange Reply)} {r : Except Fault α} (h : Course (next reply) es r) :
      Course (.ask c next) (⟨c, reply⟩ :: es) r

/-- A play against a handler is a course. -/
theorem course_run (h : Handler Reply σ) (d : Dialogue Reply α) (s : σ) :
    d.Course (d.exchanges h s) (d.run h s).1 := by
  induction d generalizing s with
  | done a => exact .done a
  | fail fault => exact .fail fault
  | say text next ih => exact .say text (ih (h.display text s))
  | ask c next ih => exact .ask c _ (ih _ _)

/-! ### Courses along the parts of a dialogue -/

/-- A dialogue that is done exchanges nothing and has its value. -/
theorem course_done (a : α) (es : List (Exchange Reply)) (r : Except Fault α) :
    (Dialogue.done a : Dialogue Reply α).Course es r ↔ es = [] ∧ r = .ok a := by
  constructor
  · rintro ⟨⟩
    exact ⟨rfl, rfl⟩
  · rintro ⟨rfl, rfl⟩
    exact .done a

/-- A value alone exchanges nothing. -/
theorem course_pure (a : α) (es : List (Exchange Reply)) (r : Except Fault α) :
    (pure a : Dialogue Reply α).Course es r ↔ es = [] ∧ r = .ok a :=
  course_done a es r

/-- A dialogue that fails exchanges nothing and has its fault. -/
theorem course_fail (fault : Fault) (es : List (Exchange Reply)) (r : Except Fault α) :
    (Dialogue.fail fault : Dialogue Reply α).Course es r ↔ es = [] ∧ r = .error fault := by
  constructor
  · rintro ⟨⟩
    exact ⟨rfl, rfl⟩
  · rintro ⟨rfl, rfl⟩
    exact .fail fault

/-- A text that is shown is no exchange. -/
theorem course_say (text : String) (next : Dialogue Reply α) (es : List (Exchange Reply))
    (r : Except Fault α) : (Dialogue.say text next).Course es r ↔ next.Course es r := by
  constructor
  · intro h
    cases h with
    | say _ h => exact h
  · exact .say text

/-- A call is the first exchange, with any reply, and the rest goes on with that reply. -/
theorem course_ask (c : C) (next : Reply c → Dialogue Reply α) (es : List (Exchange Reply))
    (r : Except Fault α) :
    (Dialogue.ask c next).Course es r ↔
      ∃ reply rest, es = ⟨c, reply⟩ :: rest ∧ (next reply).Course rest r := by
  constructor
  · intro h
    cases h with
    | ask _ reply h => exact ⟨reply, _, rfl, h⟩
  · rintro ⟨reply, rest, rfl, h⟩
    exact .ask c reply h

/-- One dialogue after another: both run, or the first fails and ends the whole. -/
theorem course_bind (d : Dialogue Reply α) (f : α → Dialogue Reply β)
    (es : List (Exchange Reply)) (r : Except Fault β) :
    (d >>= f).Course es r ↔
      (∃ a front back, es = front ++ back ∧ d.Course front (.ok a) ∧ (f a).Course back r) ∨
      ∃ fault, r = .error fault ∧ d.Course es (.error fault) := by
  show (d.bind f).Course es r ↔ _
  -- The induction is on the first dialogue. Where it ends, the second begins or the fault
  -- is that of the whole.
  induction d generalizing es with
  | done a =>
    constructor
    · intro h
      exact .inl ⟨a, [], es, rfl, .done a, h⟩
    · rintro (⟨_, _, back, rfl, ⟨⟩, h⟩ | ⟨_, _, ⟨⟩⟩)
      exact h
  | fail fault =>
    constructor
    · rintro ⟨⟩
      exact .inr ⟨fault, rfl, .fail fault⟩
    · rintro (⟨_, _, _, _, ⟨⟩, _⟩ | ⟨_, rfl, ⟨⟩⟩)
      exact .fail fault
  | say text next ih =>
    simp only [bind, course_say]
    exact ih es
  | ask c next ih =>
    simp only [bind, course_ask]
    -- The exchange stays in front, and the rest is split as after the reply.
    constructor
    · rintro ⟨reply, rest, rfl, h⟩
      rcases (ih reply rest).mp h with ⟨a, front, back, rfl, hd, hf⟩ | ⟨fault, rfl, hd⟩
      · exact .inl ⟨a, _ :: front, back, rfl, ⟨reply, front, rfl, hd⟩, hf⟩
      · exact .inr ⟨fault, rfl, reply, rest, rfl, hd⟩
    · rintro (⟨a, _, back, rfl, ⟨reply, front, rfl, hd⟩, hf⟩ | ⟨fault, rfl, reply, rest, rfl, hd⟩)
      · exact ⟨reply, front ++ back, rfl, (ih _ _).mpr (.inl ⟨a, front, back, rfl, hd, hf⟩)⟩
      · exact ⟨reply, rest, rfl, (ih _ _).mpr (.inr ⟨fault, rfl, hd⟩)⟩

/-- A course of one dialogue after another that does not fail. -/
theorem course_bind_ok (d : Dialogue Reply α) (f : α → Dialogue Reply β)
    (es : List (Exchange Reply)) (b : β) :
    (d >>= f).Course es (.ok b) ↔
      ∃ a front back, es = front ++ back ∧ d.Course front (.ok a) ∧ (f a).Course back (.ok b) := by
  rw [course_bind]
  constructor
  · rintro (h | ⟨_, heq, _⟩)
    · exact h
    · cases heq
  · exact .inl

/-- A shown line leaves no trace in the exchanges. -/
theorem course_line_bind (text : String) (f : Unit → Dialogue Reply α)
    (es : List (Exchange Reply)) (r : Except Fault α) :
    (line text >>= f).Course es r ↔ (f ()).Course es r :=
  course_say (text ++ "\n") (f ()) es r

/-- Lines shown for the elements of a list leave no trace in the exchanges. -/
theorem course_forM_line_bind (text : β → String) (bs : List β)
    (f : PUnit → Dialogue Reply α) (es : List (Exchange Reply)) (r : Except Fault α) :
    ((bs.forM fun b => line (text b)) >>= f).Course es r ↔ (f ⟨⟩).Course es r := by
  induction bs with
  | nil => exact Iff.rfl
  | cons b bs ih =>
    rw [← ih]
    exact course_line_bind (text b) (fun _ => (bs.forM fun b => line (text b)) >>= f) es r

/-- A call is one exchange. -/
theorem course_call (c : C) (es : List (Exchange Reply)) (r : Except Fault (Reply c)) :
    (call c : Dialogue Reply _).Course es r ↔ ∃ reply, es = [⟨c, reply⟩] ∧ r = .ok reply := by
  rw [call, course_ask]
  constructor
  · rintro ⟨reply, rest, rfl, h⟩
    obtain ⟨rfl, rfl⟩ := (course_done _ _ _).mp h
    exact ⟨reply, rfl, rfl⟩
  · rintro ⟨reply, rfl, rfl⟩
    exact ⟨reply, [], rfl, .done reply⟩

/-- A call is one exchange, and the rest goes on with the reply. -/
theorem course_call_bind (c : C) (f : Reply c → Dialogue Reply α)
    (es : List (Exchange Reply)) (r : Except Fault α) :
    (call c >>= f).Course es r ↔
      ∃ reply rest, es = ⟨c, reply⟩ :: rest ∧ (f reply).Course rest r :=
  course_ask c f es r

/-- A result that is demanded is the result, without an exchange. -/
theorem course_demand (a : Except Fault α) (es : List (Exchange Reply))
    (r : Except Fault α) :
    (demand a : Dialogue Reply α).Course es r ↔ es = [] ∧ r = a := by
  cases a with
  | ok a => exact course_pure a es r
  | error fault => exact course_fail fault es r

/-- A demand against a handler ends with what is demanded. -/
theorem run_demand (h : Handler Reply σ) (a : Except Fault α) (s : σ) :
    ((demand a : Dialogue Reply α).run h s).1 = a := by
  cases a with
  | ok a => rfl
  | error fault => rfl

/-- One dialogue after another against a handler: the second goes on from the value and the state
that the first leaves, and a fault of the first ends the whole. -/
theorem run_bind (h : Handler Reply σ) (d : Dialogue Reply α) (f : α → Dialogue Reply β) (s : σ) :
    (d >>= f).run h s =
      match d.run h s with
      | (.ok a, s') => (f a).run h s'
      | (.error fault, s') => (.error fault, s') := by
  show (d.bind f).run h s = _
  induction d generalizing s with
  | done a => rfl
  | fail fault => rfl
  | say text next ih => exact ih _
  | ask c next ih => exact ih _ _

/-- A play with other faults differs from the play in its fault alone. -/
theorem run_mapFault (h : Handler Reply σ) (g : Fault → Fault) (d : Dialogue Reply α) (s : σ) :
    (d.mapFault g).run h s = ((d.run h s).1.mapError g, (d.run h s).2) := by
  induction d generalizing s with
  | done a => rfl
  | fail fault => rfl
  | say text next ih => exact ih _
  | ask c next ih => exact ih _ _

/-- A changed fault leaves the courses that end with a value. -/
theorem course_mapFault_ok (g : Fault → Fault) (d : Dialogue Reply α)
    (es : List (Exchange Reply)) (a : α) :
    (d.mapFault g).Course es (.ok a) ↔ d.Course es (.ok a) := by
  induction d generalizing es with
  | done b => exact Iff.rfl
  | fail fault => simp only [mapFault, course_fail, reduceCtorEq]
  | say text next ih =>
    simp only [mapFault, course_say]
    exact ih es
  | ask c next ih => simp only [mapFault, course_ask, ih]

/-- A changed fault is made of one that the dialogue ends with after the same exchanges. -/
theorem course_mapFault_error (g : Fault → Fault) (d : Dialogue Reply α)
    (es : List (Exchange Reply)) (fault : Fault) :
    (d.mapFault g).Course es (.error fault) ↔
      ∃ cause, fault = g cause ∧ d.Course es (.error cause) := by
  induction d generalizing es with
  | done a => simp only [mapFault, course_done, reduceCtorEq, and_false, exists_false]
  | fail cause =>
    simp only [mapFault, course_fail, Except.error.injEq]
    constructor
    · rintro ⟨rfl, rfl⟩
      exact ⟨cause, rfl, rfl, rfl⟩
    · rintro ⟨_, rfl, rfl, rfl⟩
      exact ⟨rfl, rfl⟩
  | say text next ih =>
    simp only [mapFault, course_say]
    exact ih es
  | ask c next ih =>
    simp only [mapFault, course_ask, ih]
    constructor
    · rintro ⟨reply, rest, rfl, cause, rfl, h⟩
      exact ⟨cause, rfl, reply, rest, rfl, h⟩
    · rintro ⟨cause, rfl, reply, rest, rfl, h⟩
      exact ⟨reply, rest, rfl, cause, rfl, h⟩

/-- A demanded value goes to the rest, and a demanded fault ends the whole. -/
theorem course_demand_bind (a : Except Fault α) (f : α → Dialogue Reply β)
    (es : List (Exchange Reply)) (r : Except Fault β) :
    (demand a >>= f).Course es r ↔
      (∃ v, a = .ok v ∧ (f v).Course es r) ∨
      ∃ fault, a = .error fault ∧ es = [] ∧ r = .error fault := by
  cases a with
  | ok v =>
    show (f v).Course es r ↔ _
    simp
  | error fault =>
    rw [show (demand (.error fault) : Dialogue Reply α) >>= f = .fail fault from rfl, course_fail]
    simp

/-! ### Which calls a dialogue makes -/

/-- The dialogue makes only calls that satisfy `p`, whatever the replies are. -/
inductive Asks (p : C → Prop) : Dialogue Reply α → Prop where
  | done (a : α) : Asks p (.done a)
  | fail (fault : Fault) : Asks p (.fail fault)
  | say (text : String) {next : Dialogue Reply α} (h : Asks p next) : Asks p (.say text next)
  | ask {c : C} (hc : p c) {next : Reply c → Dialogue Reply α} (h : ∀ reply, Asks p (next reply)) :
      Asks p (.ask c next)

/-- Every exchange of a course has a call that the dialogue makes. -/
theorem Asks.of_course {p : C → Prop} {d : Dialogue Reply α} (hd : d.Asks p)
    {es : List (Exchange Reply)} {r : Except Fault α} (h : d.Course es r) :
    ∀ e ∈ es, p e.call := by
  -- The course knows the replies, so the induction is on it and not on the dialogue.
  induction h with
  | done a => simp
  | fail fault => simp
  | say text _ ih =>
    cases hd with
    | say _ hnext => exact ih hnext
  | ask c reply _ ih =>
    cases hd with
    | ask hc hnext =>
      intro e he
      rcases List.mem_cons.mp he with rfl | he
      · exact hc
      · exact ih (hnext reply) e he

/-- What is looked for in exchanges is not found when no call of the dialogue gives it. -/
theorem Asks.filterMap_eq_nil {p : C → Prop} {d : Dialogue Reply α} (hd : d.Asks p)
    {es : List (Exchange Reply)} {r : Except Fault α} (h : d.Course es r)
    {f : Exchange Reply → Option β} (hf : ∀ e, p e.call → f e = none) : es.filterMap f = [] :=
  List.filterMap_eq_nil_iff.mpr fun e he => hf e (hd.of_course h e he)

/-- Two dialogues after another make the calls of both. -/
theorem Asks.bind {p : C → Prop} {d : Dialogue Reply α} {f : α → Dialogue Reply β}
    (hd : d.Asks p) (hf : ∀ a, (f a).Asks p) : (d >>= f).Asks p := by
  show (d.bind f).Asks p
  induction hd with
  | done a => exact hf a
  | fail fault => exact .fail fault
  | say text _ ih => exact .say text ih
  | ask hc _ ih => exact .ask hc ih

/-- What follows a dialogue matters only for the values that the dialogue can end with. -/
theorem Asks.bind_of_course {p : C → Prop} {d : Dialogue Reply α} {f : α → Dialogue Reply β}
    (hd : d.Asks p) (hf : ∀ a es, d.Course es (.ok a) → (f a).Asks p) : (d >>= f).Asks p := by
  show (d.bind f).Asks p
  induction hd with
  | done a => exact hf a [] (.done a)
  | fail fault => exact .fail fault
  | say text _ ih => exact .say text (ih fun a es h => hf a es (.say text h))
  | ask hc _ ih =>
    exact .ask hc fun reply => ih reply fun a es h => hf a _ (.ask _ reply h)

/-- Calls that satisfy one predicate satisfy a weaker one. -/
theorem Asks.mono {p q : C → Prop} (hpq : ∀ c, p c → q c) {d : Dialogue Reply α}
    (hd : d.Asks p) : d.Asks q := by
  induction hd with
  | done a => exact .done a
  | fail fault => exact .fail fault
  | say text _ ih => exact .say text ih
  | ask hc _ ih => exact .ask (hpq _ hc) ih

/-- Nothing is said of the calls. -/
theorem asks_any (d : Dialogue Reply α) : d.Asks fun _ => True := by
  induction d with
  | done a => exact .done a
  | fail fault => exact .fail fault
  | say text next ih => exact .say text ih
  | ask c next ih => exact .ask trivial ih

/-- With other faults a dialogue makes the same calls. -/
theorem Asks.mapFault {p : C → Prop} (g : Fault → Fault) {d : Dialogue Reply α}
    (hd : d.Asks p) : (d.mapFault g).Asks p := by
  induction hd with
  | done a => exact .done a
  | fail fault => exact .fail (g fault)
  | say text _ ih => exact .say text ih
  | ask hc _ ih => exact .ask hc ih

/-- An attempt makes the calls of what is attempted. -/
theorem Asks.attempt {p : C → Prop} {d : Dialogue Reply α} (hd : d.Asks p) :
    d.attempt.Asks p := by
  induction hd with
  | done a => exact .done _
  | fail fault => exact .done _
  | say text _ ih => exact .say text ih
  | ask hc _ ih => exact .ask hc ih

/-- Calls that are replaced by dialogues are replaced by the calls of these. -/
theorem Asks.interpret {p : C → Prop} {q : D → Prop} {f : (c : C) → Dialogue Answer (Reply c)}
    {d : Dialogue Reply α} (hd : d.Asks p) (hf : ∀ c, p c → (f c).Asks q) :
    (d.interpret f).Asks q := by
  induction hd with
  | done a => exact .done a
  | fail fault => exact .fail fault
  | say text _ ih => exact .say text ih
  | ask hc _ ih => exact Asks.bind (hf _ hc) ih

/-- A call makes itself and no other. -/
theorem asks_call {p : C → Prop} {c : C} (hc : p c) : (call c : Dialogue Reply _).Asks p :=
  .ask hc fun reply => .done reply

/-- To demand a result makes no call. -/
theorem asks_demand (p : C → Prop) (a : Except Fault α) :
    (demand a : Dialogue Reply α).Asks p := by
  cases a with
  | ok a => exact .done a
  | error fault => exact .fail fault

/-- To show a line makes no call. -/
theorem asks_line (p : C → Prop) (text : String) :
    (line text : Dialogue Reply Unit).Asks p :=
  .say _ (.done ())

/-- To show several lines makes no call. -/
theorem asks_forM_line (p : C → Prop) (text : β → String) (bs : List β) :
    (bs.forM fun b => line (text b) : Dialogue Reply PUnit).Asks p := by
  induction bs with
  | nil => exact .done _
  | cons b bs ih => exact Asks.bind (asks_line p _) fun _ => ih

/-! ### Dialogues without a fault -/

/-- The dialogue ends with a value, whatever the replies are. -/
inductive Unfailing : Dialogue Reply α → Prop where
  | done (a : α) : Unfailing (.done a)
  | say (text : String) {next : Dialogue Reply α} (h : Unfailing next) :
      Unfailing (.say text next)
  | ask (c : C) {next : Reply c → Dialogue Reply α} (h : ∀ reply, Unfailing (next reply)) :
      Unfailing (.ask c next)

/-- A course of a dialogue that cannot fail comes to a value. -/
theorem Unfailing.exists_ok {d : Dialogue Reply α} (hd : d.Unfailing)
    {es : List (Exchange Reply)} {r : Except Fault α} (h : d.Course es r) :
    ∃ a, r = .ok a := by
  induction h with
  | done a => exact ⟨a, rfl⟩
  -- No constructor of `Unfailing` is a fault.
  | fail fault => nomatch hd
  | say text _ ih =>
    cases hd with
    | say _ hnext => exact ih hnext
  | ask c reply _ ih =>
    cases hd with
    | ask _ hnext => exact ih (hnext reply)

/-- Two dialogues that cannot fail do not fail after another. -/
theorem Unfailing.bind {d : Dialogue Reply α} {f : α → Dialogue Reply β}
    (hd : d.Unfailing) (hf : ∀ a, (f a).Unfailing) : (d >>= f).Unfailing := by
  show (d.bind f).Unfailing
  induction hd with
  | done a => exact hf a
  | say text _ ih => exact .say text ih
  | ask c _ ih => exact .ask c ih

/-- To show lines cannot fail. -/
theorem unfailing_forM_line (lines : List String) :
    (lines.forM line : Dialogue Reply PUnit).Unfailing := by
  induction lines with
  | nil => exact .done _
  | cons text lines ih => exact .say _ ih

/-- A call gives its reply, and a reply that is a fault is still a reply. -/
theorem unfailing_call (c : C) : (call c : Dialogue Reply _).Unfailing :=
  .ask c fun reply => .done reply

end Dialogue

end FrameworkUpgrade
