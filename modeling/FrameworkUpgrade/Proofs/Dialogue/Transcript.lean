import FrameworkUpgrade.Proofs.Dialogue.Course

/-!
# `FrameworkUpgrade.Proofs.Dialogue.Transcript`: plays that differ in an aside

The transcript of a play lists what happens in it: the exchanges, and between them the texts that
are shown. It says more than `Dialogue.exchanges`, which leaves the texts out
(`filterMap_transcript`).

Two handlers may differ in nothing but their answers to some calls (`DifferOnly`). A dialogue that
makes no such call goes the same way against both (`Asks.run_alike`). A dialogue may also make such
calls in one place, an aside, and go on in the same way whatever the replies are. Then the two plays
have the same result, and their transcripts are the same but for the aside (`SameBesides`). The
rules put this together along the dialogue: `SameBesides.bind_front` for what comes before the
aside, and `sameBesides_aside` for the aside and all behind it.

In a lockstep (`Proofs.Dialogue.Lockstep`) both sides make the same free calls and only the replies
differ. Here the asides may differ in length, so each of them is taken out as a whole.
-/

set_option autoImplicit false

namespace FrameworkUpgrade

/-- What happens in a play. -/
inductive Event {C : Type} (Reply : C → Type) where
  | shown (text : String)
  | exchanged (e : Exchange Reply)

namespace Dialogue

variable {C : Type} {Reply : C → Type} {α β γ σ σ' : Type}

/-- The events of a dialogue that is played against a handler, in order. -/
def transcript (h : Handler Reply σ) : Dialogue Reply α → σ → List (Event Reply)
  | .done _, _ => []
  | .fail _, _ => []
  | .say text next, s => .shown text :: next.transcript h (h.display text s)
  | .ask c next, s =>
    .exchanged ⟨c, (h.answer c s).1⟩ :: (next (h.answer c s).1).transcript h (h.answer c s).2

/-- The exchange of an event, if it is one. -/
def exchange? : Event Reply → Option (Exchange Reply)
  | .shown _ => none
  | .exchanged e => some e

/-- Without its texts a transcript is the list of the exchanges. -/
theorem filterMap_transcript (h : Handler Reply σ) (d : Dialogue Reply α) (s : σ) :
    (d.transcript h s).filterMap exchange? = d.exchanges h s := by
  induction d generalizing s with
  | done a => rfl
  | fail fault => rfl
  | say text next ih => exact ih _
  | ask c next ih => exact congrArg (_ :: ·) (ih _ _)

/-- What happens in one dialogue after another is what happens in the first, and then in the second
if the first has come to a value. -/
theorem transcript_bind (h : Handler Reply σ) (d : Dialogue Reply α) (f : α → Dialogue Reply β)
    (s : σ) :
    (d >>= f).transcript h s = d.transcript h s ++
      match d.run h s with
      | (.ok a, s') => (f a).transcript h s'
      | (.error _, _) => [] := by
  show (d.bind f).transcript h s = _
  induction d generalizing s with
  | done a => rfl
  | fail fault => rfl
  | say text next ih => exact congrArg (_ :: ·) (ih _)
  | ask c next ih => exact congrArg (_ :: ·) (ih _ _)

/-- A call is one exchange, and the rest goes on with the reply. -/
theorem transcript_call_bind (h : Handler Reply σ) (c : C) (f : Reply c → Dialogue Reply α)
    (s : σ) :
    (call c >>= f).transcript h s =
      .exchanged ⟨c, (h.answer c s).1⟩ :: (f (h.answer c s).1).transcript h (h.answer c s).2 :=
  rfl

/-- Three dialogues after another may be put together from either end. -/
theorem bind_assoc (d : Dialogue Reply α) (f : α → Dialogue Reply β) (g : β → Dialogue Reply γ) :
    d >>= f >>= g = d >>= fun a => f a >>= g := by
  show (d.bind f).bind g = d.bind fun a => (f a).bind g
  induction d with
  | done a => rfl
  | fail fault => rfl
  | say text next ih => exact congrArg (Dialogue.say text) ih
  | ask c next ih => exact congrArg (Dialogue.ask c) (funext ih)

/-- Lines are shown one after another. -/
theorem transcript_forM_line (h : Handler Reply σ) (lines : List String) (s : σ) :
    (lines.forM line).transcript h s = lines.map fun text => .shown (text ++ "\n") := by
  induction lines generalizing s with
  | nil => rfl
  | cons text lines ih => exact congrArg (_ :: ·) (ih _)

/-! ### Handlers that differ in some answers -/

/-- Two handlers differ only in how they answer the calls that satisfy `own`: they answer the other
calls alike as long as their states are related, and the states stay so. An own call on one side
alone, or a text that is shown on one side alone, makes no difference to the states. -/
structure DifferOnly (own : C → Prop) (h : Handler Reply σ) (h' : Handler Reply σ')
    (rel : σ → σ' → Prop) : Prop where
  answer : ∀ {s s'}, rel s s' → ∀ c, ¬ own c → (h.answer c s).1 = (h'.answer c s').1
  after : ∀ {s s'}, rel s s' → ∀ c, ¬ own c → rel (h.answer c s).2 (h'.answer c s').2
  afterLeft : ∀ {s s'}, rel s s' → ∀ c, own c → rel (h.answer c s).2 s'
  afterRight : ∀ {s s'}, rel s s' → ∀ c, own c → rel s (h'.answer c s').2
  displayLeft : ∀ {s s'}, rel s s' → ∀ text, rel (h.display text s) s'
  displayRight : ∀ {s s'}, rel s s' → ∀ text, rel s (h'.display text s')

section Alike

variable {own : C → Prop} {h : Handler Reply σ} {h' : Handler Reply σ'} {rel : σ → σ' → Prop}
  {d : Dialogue Reply α} {s : σ} {s' : σ'}

/-- A dialogue that makes no own call goes the same way against both handlers. -/
theorem Asks.run_alike (hd : d.Asks (¬ own ·)) (hdiffer : DifferOnly own h h' rel)
    (hs : rel s s') :
    d.transcript h s = d.transcript h' s' ∧ (d.run h s).1 = (d.run h' s').1 ∧
      rel (d.run h s).2 (d.run h' s').2 := by
  induction hd generalizing s s' with
  | done a => exact ⟨rfl, rfl, hs⟩
  | fail fault => exact ⟨rfl, rfl, hs⟩
  | say text _ ih =>
    obtain ⟨htranscript, hrest⟩ := ih (hdiffer.displayRight (hdiffer.displayLeft hs text) text)
    exact ⟨congrArg (_ :: ·) htranscript, hrest⟩
  | @ask c hc next _ ih =>
    -- Both sides are given the same reply, so they go on with the same dialogue.
    have hreply := hdiffer.answer hs c hc
    obtain ⟨htranscript, hrest⟩ := ih (h.answer c s).1 (hdiffer.after hs c hc)
    simp only [transcript, run, ← hreply]
    exact ⟨congrArg (_ :: ·) htranscript, hrest⟩

/-- A dialogue that makes only own calls leaves the state related on the left. -/
theorem Asks.keeps_left (hd : d.Asks own) (hdiffer : DifferOnly own h h' rel) (hs : rel s s') :
    rel (d.run h s).2 s' := by
  induction hd generalizing s with
  | done a => exact hs
  | fail fault => exact hs
  | say text _ ih => exact ih (hdiffer.displayLeft hs text)
  | ask hc _ ih => exact ih _ (hdiffer.afterLeft hs _ hc)

/-- A dialogue that makes only own calls leaves the state related on the right. -/
theorem Asks.keeps_right (hd : d.Asks own) (hdiffer : DifferOnly own h h' rel) (hs : rel s s') :
    rel s (d.run h' s').2 := by
  induction hd generalizing s' with
  | done a => exact hs
  | fail fault => exact hs
  | say text _ ih => exact ih (hdiffer.displayRight hs text)
  | ask hc _ ih => exact ih _ (hdiffer.afterRight hs _ hc)

end Alike

/-! ### Asides -/

/-- A dialogue against two handlers comes to the same result and leaves related states, and the
same happens on both sides but for an aside in one place. -/
structure SameBesides (aside : List (Event Reply) → Prop) (h : Handler Reply σ)
    (h' : Handler Reply σ') (rel : σ → σ' → Prop) (d : Dialogue Reply α) (s : σ) (s' : σ') :
    Prop where
  result : (d.run h s).1 = (d.run h' s').1
  state : rel (d.run h s).2 (d.run h' s').2
  events : ∃ before after talk talk', aside talk ∧ aside talk' ∧
    d.transcript h s = before ++ talk ++ after ∧ d.transcript h' s' = before ++ talk' ++ after

section SameBesides

variable {own : C → Prop} {aside : List (Event Reply) → Prop} {h : Handler Reply σ}
  {h' : Handler Reply σ'} {rel : σ → σ' → Prop} {s : σ} {s' : σ'}

/-- Where no own call is made, the aside is empty. -/
theorem sameBesides_of_asks {d : Dialogue Reply α} (hd : d.Asks (¬ own ·))
    (hdiffer : DifferOnly own h h' rel) (hs : rel s s') (hnone : aside []) :
    SameBesides aside h h' rel d s s' := by
  obtain ⟨htranscript, hresult, hstate⟩ := hd.run_alike hdiffer hs
  refine ⟨hresult, hstate, [], d.transcript h' s', [], [], hnone, hnone, ?_, rfl⟩
  exact htranscript

/-- What makes no own call may come before. -/
theorem SameBesides.bind_front {d : Dialogue Reply α} {f : α → Dialogue Reply β}
    (hd : d.Asks (¬ own ·)) (hdiffer : DifferOnly own h h' rel) (hs : rel s s') (hnone : aside [])
    (hf : ∀ a t t', rel t t' → SameBesides aside h h' rel (f a) t t') :
    SameBesides aside h h' rel (d >>= f) s s' := by
  obtain ⟨htranscript, hresult, hstate⟩ := hd.run_alike hdiffer hs
  rcases hrun : d.run h s with ⟨r, t⟩
  rcases hrun' : d.run h' s' with ⟨r', t'⟩
  rw [hrun, hrun'] at hresult hstate
  obtain rfl : r = r' := hresult
  cases r with
  | ok a =>
    obtain ⟨hresult, hstate, before, after, talk, talk', htalk, htalk', hleft, hright⟩ :=
      hf a t t' hstate
    refine ⟨?_, ?_, d.transcript h s ++ before, after, talk, talk', htalk, htalk', ?_, ?_⟩
    · rwa [run_bind, run_bind, hrun, hrun']
    · rwa [run_bind, run_bind, hrun, hrun']
    · simp only [transcript_bind, hrun, hleft, List.append_assoc]
    · simp only [transcript_bind, hrun', hright, htranscript, List.append_assoc]
  | error fault =>
    -- The whole ends here, before there was an aside.
    refine ⟨?_, ?_, d.transcript h s, [], [], [], hnone, hnone, ?_, ?_⟩
    · rw [run_bind, run_bind, hrun, hrun']
    · rwa [run_bind, run_bind, hrun, hrun']
    · simp only [transcript_bind, hrun, List.append_nil]
    · simp only [transcript_bind, hrun', htranscript, List.append_nil]

/-- A dialogue that makes only own calls and comes to a value is an aside, when what follows makes
no own call and does not look at that value. -/
theorem sameBesides_aside {d : Dialogue Reply Unit} {e : Dialogue Reply β} (hd : d.Asks own)
    (hvalue : d.Unfailing) (he : e.Asks (¬ own ·)) (hdiffer : DifferOnly own h h' rel)
    (hs : rel s s') (htalk : aside (d.transcript h s)) (htalk' : aside (d.transcript h' s')) :
    SameBesides aside h h' rel (d >>= fun _ => e) s s' := by
  obtain ⟨⟨⟩, hok⟩ := hvalue.exists_ok (course_run h d s)
  obtain ⟨⟨⟩, hok'⟩ := hvalue.exists_ok (course_run h' d s')
  -- However the asides went, what follows starts from related states.
  have hafter := hd.keeps_left hdiffer (hd.keeps_right hdiffer hs)
  obtain ⟨htranscript, hresult, hstate⟩ := he.run_alike hdiffer hafter
  have hrun : d.run h s = (.ok (), (d.run h s).2) := by rw [← hok]
  have hrun' : d.run h' s' = (.ok (), (d.run h' s').2) := by rw [← hok']
  refine ⟨?_, ?_, [], e.transcript h (d.run h s).2, _, _, htalk, htalk', ?_, ?_⟩
  · rw [run_bind, run_bind, hrun, hrun']
    exact hresult
  · rw [run_bind, run_bind, hrun, hrun']
    exact hstate
  · rw [transcript_bind, hrun]
    rfl
  · rw [transcript_bind, hrun', htranscript]
    rfl

end SameBesides

end Dialogue

end FrameworkUpgrade
