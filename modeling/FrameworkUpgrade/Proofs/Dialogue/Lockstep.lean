import FrameworkUpgrade.Proofs.Dialogue.Course

/-!
# `FrameworkUpgrade.Proofs.Dialogue.Lockstep`: two dialogues side by side

Some replies are free: the dialogue may record them, but it goes on in the same way whatever
they are. `Lockstep free R d e` says that `d` and `e` make the same calls as long as they are
given the same replies to the calls that are not free, and that they end alike: with the same
fault, or with values that `R` relates. What they show may differ.

The rules are those for the parts of a dialogue. A dialogue without free calls goes in
lockstep with itself (`Lockstep.refl`), a free call goes with itself under any two replies
(`lockstep_call`), and one dialogue after another is taken apart by `Lockstep.bind`.
`Lockstep.course` brings it back to courses, and so to plays against two handlers. Handlers
that answer alike to all calls that are not free (`AnswerAlike`) give the same replies to
dialogues in lockstep (`Lockstep.sameReplies`).
-/

set_option autoImplicit false

namespace FrameworkUpgrade

namespace Dialogue

variable {C : Type} {Reply : C → Type} {α β γ δ : Type} {free : C → Prop}

/-- Two ends that are alike: the same fault, or values that are related. -/
inductive SameEnd (R : α → β → Prop) : Except Fault α → Except Fault β → Prop where
  | ok {a : α} {b : β} (h : R a b) : SameEnd R (.ok a) (.ok b)
  | error (fault : Fault) : SameEnd R (.error fault) (.error fault)

/-- The dialogues make the same calls and end alike, whatever the free replies are. -/
inductive Lockstep (free : C → Prop) (R : α → β → Prop) :
    Dialogue Reply α → Dialogue Reply β → Prop where
  | done {a : α} {b : β} (h : R a b) : Lockstep free R (.done a) (.done b)
  | fail (fault : Fault) : Lockstep free R (.fail fault) (.fail fault)
  | sayLeft (text : String) {d : Dialogue Reply α} {e : Dialogue Reply β}
      (h : Lockstep free R d e) : Lockstep free R (.say text d) e
  | sayRight (text : String) {d : Dialogue Reply α} {e : Dialogue Reply β}
      (h : Lockstep free R d e) : Lockstep free R d (.say text e)
  | ask {c : C} (hc : ¬ free c) {f : Reply c → Dialogue Reply α} {g : Reply c → Dialogue Reply β}
      (h : ∀ reply, Lockstep free R (f reply) (g reply)) : Lockstep free R (.ask c f) (.ask c g)
  | askFree (c : C) {f : Reply c → Dialogue Reply α} {g : Reply c → Dialogue Reply β}
      (h : ∀ reply reply', Lockstep free R (f reply) (g reply')) :
      Lockstep free R (.ask c f) (.ask c g)

/-- A dialogue that makes no free call goes in lockstep with itself. -/
theorem Lockstep.refl {d : Dialogue Reply α} (hd : d.Asks (¬ free ·)) :
    Lockstep free Eq d d := by
  induction hd with
  | done a => exact .done rfl
  | fail fault => exact .fail fault
  | say text _ ih => exact .sayLeft text (.sayRight text ih)
  | ask hc _ ih => exact .ask hc ih

/-- In lockstep both sides come to related values, and what follows only has to be in lockstep for
these. -/
theorem Lockstep.bind {R : α → β → Prop} {S : γ → δ → Prop} {d : Dialogue Reply α}
    {e : Dialogue Reply β} {f : α → Dialogue Reply γ} {g : β → Dialogue Reply δ}
    (h : Lockstep free R d e) (hfg : ∀ a b, R a b → Lockstep free S (f a) (g b)) :
    Lockstep free S (d >>= f) (e >>= g) := by
  show Lockstep free S (d.bind f) (e.bind g)
  induction h with
  | done hab => exact hfg _ _ hab
  | fail fault => exact .fail fault
  | sayLeft text _ ih => exact .sayLeft text ih
  | sayRight text _ ih => exact .sayRight text ih
  | ask hc _ ih => exact .ask hc ih
  | askFree c _ ih => exact .askFree c ih

/-- A part without free calls goes first, and both sides go on with its value. -/
theorem Lockstep.bind_refl {S : γ → δ → Prop} {d : Dialogue Reply α}
    {f : α → Dialogue Reply γ} {g : α → Dialogue Reply δ} (hd : d.Asks (¬ free ·))
    (hfg : ∀ a, Lockstep free S (f a) (g a)) : Lockstep free S (d >>= f) (d >>= g) := by
  refine Lockstep.bind (Lockstep.refl hd) ?_
  rintro a _ rfl
  exact hfg a

/-- A call goes in lockstep with itself under any two replies. -/
theorem lockstep_call (c : C) :
    Lockstep free (fun _ _ => True) (call c : Dialogue Reply _) (call c) :=
  .askFree c fun _ _ => .done trivial

/-- The lines that are shown do not matter. -/
theorem lockstep_line_bind {S : γ → δ → Prop} (text text' : String)
    {f : Unit → Dialogue Reply γ} {g : Unit → Dialogue Reply δ}
    (h : Lockstep free S (f ()) (g ())) :
    Lockstep free S (line text >>= f) (line text' >>= g) :=
  .sayLeft _ (.sayRight _ h)

/-! ### Courses side by side -/

/-- At every place where both sides make the same call and it is not free, they are given
the same reply. -/
def SameReplies (free : C → Prop) (es es' : List (Exchange Reply)) : Prop :=
  ∀ x ∈ es.zip es', x.1.call = x.2.call → ¬ free x.1.call → x.1 = x.2

/-- The first exchanges are the same if they have the same call and it is not free. -/
theorem SameReplies.head {e e' : Exchange Reply} {es es' : List (Exchange Reply)}
    (h : SameReplies free (e :: es) (e' :: es')) (hcall : e.call = e'.call)
    (hfree : ¬ free e.call) : e = e' :=
  h (e, e') List.mem_cons_self hcall hfree

/-- What follows the first exchanges has the same replies too. -/
theorem SameReplies.tail {e e' : Exchange Reply} {es es' : List (Exchange Reply)}
    (h : SameReplies free (e :: es) (e' :: es')) : SameReplies free es es' :=
  fun x hx => h x (List.mem_cons_of_mem _ hx)

/-- Exchanges with the same replies stay so behind two that agree unless their call is free. -/
theorem SameReplies.cons {e e' : Exchange Reply} {es es' : List (Exchange Reply)}
    (hhead : e.call = e'.call → ¬ free e.call → e = e') (htail : SameReplies free es es') :
    SameReplies free (e :: es) (e' :: es') := by
  intro x hx
  rcases List.mem_cons.mp hx with rfl | hx
  · exact hhead
  · exact htail x hx

/-- Dialogues in lockstep that are given the same replies make the same calls and end
alike. -/
theorem Lockstep.course {R : α → β → Prop} {d : Dialogue Reply α} {d' : Dialogue Reply β}
    (h : Lockstep free R d d') {es es' : List (Exchange Reply)} {r : Except Fault α}
    {r' : Except Fault β} (hd : d.Course es r) (hd' : d'.Course es' r')
    (hsame : SameReplies free es es') :
    es.map Exchange.call = es'.map Exchange.call ∧ SameEnd R r r' := by
  induction h generalizing es es' with
  | done hab =>
    obtain ⟨rfl, rfl⟩ := (course_done _ _ _).mp hd
    obtain ⟨rfl, rfl⟩ := (course_done _ _ _).mp hd'
    exact ⟨rfl, .ok hab⟩
  | fail fault =>
    obtain ⟨rfl, rfl⟩ := (course_fail _ _ _).mp hd
    obtain ⟨rfl, rfl⟩ := (course_fail _ _ _).mp hd'
    exact ⟨rfl, .error fault⟩
  | sayLeft text _ ih => exact ih ((course_say _ _ _ _).mp hd) hd' hsame
  | sayRight text _ ih => exact ih hd ((course_say _ _ _ _).mp hd') hsame
  | @ask c hc f g _ ih =>
    obtain ⟨reply, rest, rfl, hf⟩ := (course_ask _ _ _ _).mp hd
    obtain ⟨reply', rest', rfl, hg⟩ := (course_ask _ _ _ _).mp hd'
    -- The call is not free, so the reply is the same on both sides.
    obtain rfl : reply = reply' := by
      have hhead := hsame.head rfl hc
      injection hhead
    obtain ⟨hcalls, hend⟩ := ih reply hf hg hsame.tail
    exact ⟨congrArg (c :: ·) hcalls, hend⟩
  | askFree c _ ih =>
    obtain ⟨reply, rest, rfl, hf⟩ := (course_ask _ _ _ _).mp hd
    obtain ⟨reply', rest', rfl, hg⟩ := (course_ask _ _ _ _).mp hd'
    obtain ⟨hcalls, hend⟩ := ih reply reply' hf hg hsame.tail
    exact ⟨congrArg (c :: ·) hcalls, hend⟩

/-- What is seen of calls that are not free is the same on both sides. -/
theorem SameReplies.filterMap_eq {f : Exchange Reply → Option γ}
    (hf : ∀ e, free e.call → f e = none) {es es' : List (Exchange Reply)}
    (hcalls : es.map Exchange.call = es'.map Exchange.call) (h : SameReplies free es es') :
    es.filterMap f = es'.filterMap f := by
  induction es generalizing es' with
  | nil =>
    have hnil : es' = [] := by simpa using hcalls.symm
    rw [hnil]
  | cons e es ih =>
    cases es' with
    | nil => cases hcalls
    | cons e' es' =>
      obtain ⟨hcall, hcalls⟩ := List.cons.inj hcalls
      have htail := ih hcalls h.tail
      by_cases hfree : free e.call
      · -- Neither side shows anything of a free call.
        have hfree' : free e'.call := hcall ▸ hfree
        rw [List.filterMap_cons_none (hf e hfree), List.filterMap_cons_none (hf e' hfree'),
          htail]
      · obtain rfl := h.head hcall hfree
        rw [List.filterMap_cons, List.filterMap_cons, htail]

/-! ### Plays side by side -/

/-- Two handlers answer alike to calls that are not free as long as their states are related,
and they stay so. What one of them is shown makes no difference. -/
structure AnswerAlike (free : C → Prop) {σ σ' : Type} (h : Handler Reply σ)
    (h' : Handler Reply σ') (rel : σ → σ' → Prop) : Prop where
  answer : ∀ {s s'}, rel s s' → ∀ c, ¬ free c → (h.answer c s).1 = (h'.answer c s').1
  after : ∀ {s s'}, rel s s' → ∀ c, rel (h.answer c s).2 (h'.answer c s').2
  displayLeft : ∀ {s s'}, rel s s' → ∀ text, rel (h.display text s) s'
  displayRight : ∀ {s s'}, rel s s' → ∀ text, rel s (h'.display text s')

/-- Dialogues in lockstep are given the same replies by handlers that answer alike. -/
theorem Lockstep.sameReplies {R : α → β → Prop} {d : Dialogue Reply α} {d' : Dialogue Reply β}
    (hd : Lockstep free R d d') {σ σ' : Type} {h : Handler Reply σ} {h' : Handler Reply σ'}
    {rel : σ → σ' → Prop} (halike : AnswerAlike free h h' rel) {s : σ} {s' : σ'}
    (hs : rel s s') : SameReplies free (d.exchanges h s) (d'.exchanges h' s') := by
  induction hd generalizing s s' with
  | done _ => exact nofun
  | fail _ => exact nofun
  | sayLeft text _ ih => exact ih (halike.displayLeft hs text)
  | sayRight text _ ih => exact ih (halike.displayRight hs text)
  | @ask c hc f g _ ih =>
    have hreply := halike.answer hs c hc
    have hrest := ih (h.answer c s).1 (halike.after hs c)
    show SameReplies free (⟨c, _⟩ :: (f _).exchanges h _) (⟨c, _⟩ :: (g _).exchanges h' _)
    rw [← hreply]
    exact .cons (fun _ _ => rfl) hrest
  | askFree c _ ih =>
    refine .cons (fun _ hc => ?_) (ih _ _ (halike.after hs c))
    rw [halike.answer hs c hc]

end Dialogue

end FrameworkUpgrade
