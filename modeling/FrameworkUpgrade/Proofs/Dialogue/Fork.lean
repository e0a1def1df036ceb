import FrameworkUpgrade.Proofs.Dialogue.Pool
import FrameworkUpgrade.Proofs.Dialogue.Transcript

/-!
# `FrameworkUpgrade.Proofs.Dialogue.Fork`: a dialogue that forks in one place

A dialogue goes on with several dialogues at the same time, and with the values of these when all
of them are over. `Forks` says what may come of the whole and in which state it may leave the
handler: up to the fork there is one play, at the fork there are the schedules of a pool, and
behind it one play from the state that the schedule leaves.

Of the dialogues one after another comes one of these (`forks_unforked`), against any handler.
`forks_alike` is the other direction. Suppose that the forked dialogues make calls that are
answered alike at any time and have no bearing on the answers to other calls, and that the rest
makes none of them. Then a whole that comes to a value comes to the same value under every
schedule. Only where forked dialogues fail the schedule decides which of their faults comes of it.
-/

set_option autoImplicit false

namespace FrameworkUpgrade.Dialogue

variable {C : Type} {Reply : C → Type} {α β γ σ : Type}

/-! ### The state that a schedule leaves -/

section Keeps

variable {h : Handler Reply σ} {p : C → Prop} {inv : σ → Prop} {rel : σ → σ → Prop}

/-- A step of a task that makes only own calls leaves the state related. -/
theorem Task.Step.keeps (hdiffer : DifferOnly p h h rel) {failing : Prop}
    {t t' : Task Reply α} {s s' u : σ} (hstep : t.Step h failing s t' s') {r : Except Fault α}
    (ht : t.HeadsFor h p inv r) (hs : rel s u) : rel s' u := by
  cases hstep with
  | say text next => exact hdiffer.displayLeft hs text
  | ask c next =>
    cases ht with
    | running hasks _ =>
      cases hasks with
      | ask hc _ => exact hdiffer.afterLeft hs c hc
  | start | drop | value | fault => exact hs

/-- A step of one of several tasks leaves the state related. -/
theorem StepIn.keeps (hdiffer : DifferOnly p h h rel) {failing : Prop}
    {ts ts' : List (Task Reply α)} {s s' u : σ} (hstep : StepIn h failing ts s ts' s')
    {rs : List (Except Fault α)} (hheads : List.Forall₂ (Task.HeadsFor h p inv) rs ts)
    (hs : rel s u) : rel s' u := by
  induction hstep generalizing rs with
  | head ts hstep =>
    cases hheads with
    | cons ht _ => exact hstep.keeps hdiffer ht hs
  | tail t _ ih =>
    cases hheads with
    | cons _ hts => exact ih hts hs

/-- A schedule of dialogues that make only own calls leaves the state related. -/
theorem Pool.Bound.keeps (hsteady : h.Steady p inv) (hdiffer : DifferOnly p h h rel)
    {rs : List (Except Fault α)} {q q' : Pool Reply α σ} (hq : q.Bound h p inv rs)
    (hruns : Pool.Runs h q q') {u : σ} (hs : rel q.state u) : rel q'.state u := by
  induction hruns with
  | refl => exact hs
  | tail hbefore hstep ih => exact StepIn.keeps hdiffer hstep (hq.runs hsteady hbefore).heads ih

end Keeps

/-- What all answers and texts keep is kept by a play. -/
theorem keeps_run {h : Handler Reply σ} {inv : σ → Prop}
    (hanswer : ∀ c s, inv s → inv (h.answer c s).2)
    (hshown : ∀ text s, inv s → inv (h.display text s)) (d : Dialogue Reply α) {s : σ}
    (hs : inv s) : inv (d.run h s).2 := by
  induction d generalizing s with
  | done a => exact hs
  | fail fault => exact hs
  | say text next ih => exact ih (hshown text s hs)
  | ask c next ih => exact ih _ (hanswer c s hs)

/-! ### Forks -/

/-- Where all results are values, nothing comes of them but these. -/
theorem Joined.eq_ok {rs : List (Except Fault α)} {as : List α} (hok : Joined rs (.ok as))
    {r : Except Fault (List α)} (hr : Joined rs r) : r = .ok as := by
  rw [joined_ok_iff] at hok
  subst hok
  cases hr with
  | ok heq =>
    have hvalues : as = _ := List.map_injective_iff.mpr (fun _ _ => Except.ok.inj) heq
    rw [hvalues]
  | error hmem => simp at hmem

/-- Dialogues one after another make the calls that each of them makes. -/
theorem asks_inOrder {p : C → Prop} {ds : List (Dialogue Reply β)} (hds : ∀ d ∈ ds, d.Asks p) :
    (inOrder ds).Asks p := by
  induction ds with
  | nil => exact .done _
  | cons d ds ih =>
    rw [List.forall_mem_cons] at hds
    exact Asks.bind hds.1 fun _ => Asks.bind (ih hds.2) fun _ => .done _

/-- A fault that one of several dialogues ends with when it is played alone. -/
def IsFaultOf (h : Handler Reply σ) (s : σ) (ds : List (Dialogue Reply β)) (fault : Fault) : Prop :=
  ∃ d ∈ ds, alone h s d = .error fault

/-- A schedule leaves the state as the dialogues one after another do, and the same comes of it,
unless some of them fail: then the fault of one of them does. -/
theorem Pool.joined_alike {h : Handler Reply σ} {p : C → Prop} {inv : σ → Prop}
    {rel : σ → σ → Prop} (hsteady : h.Steady p inv) (hdiffer : DifferOnly p h h rel)
    {ds : List (Dialogue Reply β)} (hds : ∀ d ∈ ds, d.Asks p) {s : σ} (hs : inv s)
    (hrefl : rel s s) {q : Pool Reply β σ} (hruns : Pool.Runs h (.start ds s) q)
    (hover : q.IsOver) {r : Except Fault (List β)} (hjoined : Joined q.results r)
    {r' : Except Fault (List β)} {s' : σ} (hinOrder : (inOrder ds).run h s = (r', s')) :
    rel q.state s' ∧
      (r = r' ∨ ∃ fault fault', r = .error fault ∧ r' = .error fault' ∧
        IsFaultOf h s ds fault ∧ IsFaultOf h s ds fault') := by
  have hscheduled : rel q.state s := (bound_start hsteady hds hs).keeps hsteady hdiffer hruns hrefl
  have hstate := (asks_inOrder hds).keeps_right hdiffer hscheduled
  -- What comes of either is what may come of the results of the dialogues alone.
  have hschedule := (together_iff hsteady hds hs).mp ⟨q, hruns, hover, hjoined⟩
  have hsequence := (together_iff hsteady hds hs).mp (together_inOrder h ds s)
  rw [hinOrder] at hstate hsequence
  refine ⟨hstate, ?_⟩
  cases r with
  | ok bs => exact .inl (hschedule.eq_ok hsequence).symm
  | error fault =>
    cases r' with
    | ok bs => exact .inl (hsequence.eq_ok hschedule)
    | error fault' =>
      have hfault := List.mem_map.mp (joined_error_iff.mp hschedule)
      have hfault' := List.mem_map.mp (joined_error_iff.mp hsequence)
      exact .inr ⟨fault, fault', rfl, rfl, hfault, hfault'⟩

section Forks

variable (h : Handler Reply σ) (front : Dialogue Reply α) (fork : α → List (Dialogue Reply β))
  (back : α → List β → Dialogue Reply γ) (s : σ)

/-- What may come of a dialogue that forks, and the state that is left: it ends before the fork, or
with a fault of a forked dialogue, or behind the fork. -/
inductive Forks : Except Fault γ → σ → Prop where
  | early {fault : Fault} {t : σ} (hfront : front.run h s = (.error fault, t)) :
      Forks (.error fault) t
  | failing {a : α} {s' : σ} {q : Pool Reply β σ} {fault : Fault}
      (hfront : front.run h s = (.ok a, s')) (hruns : Pool.Runs h (.start (fork a) s') q)
      (hover : q.IsOver) (hjoined : Joined q.results (.error fault)) :
      Forks (.error fault) q.state
  | through {a : α} {s' : σ} {q : Pool Reply β σ} {bs : List β} {r : Except Fault γ} {t : σ}
      (hfront : front.run h s = (.ok a, s')) (hruns : Pool.Runs h (.start (fork a) s') q)
      (hover : q.IsOver) (hjoined : Joined q.results (.ok bs))
      (hback : (back a bs).run h q.state = (r, t)) : Forks r t

/-- The dialogue that forks, with the forked dialogues one after another. -/
def unforked : Dialogue Reply γ :=
  front >>= fun a => inOrder (fork a) >>= back a

variable {h front fork back s}

/-- Behind its front, the forked dialogues are played one after another, and then the rest. -/
theorem run_unforked {a : α} {s' : σ} (hfront : front.run h s = (.ok a, s')) :
    (unforked front fork back).run h s =
      match (inOrder (fork a)).run h s' with
      | (.ok bs, s'') => (back a bs).run h s''
      | (.error fault, s'') => (.error fault, s'') := by
  rw [unforked, run_bind, hfront]
  show (inOrder (fork a) >>= back a).run h s' = _
  rw [run_bind]
  rcases (inOrder (fork a)).run h s' with ⟨r, s''⟩
  cases r <;> rfl

/-- A dialogue that ends before its fork. -/
theorem run_unforked_early {fault : Fault} {s' : σ} (hfront : front.run h s = (.error fault, s')) :
    (unforked front fork back).run h s = (.error fault, s') := by
  rw [unforked, run_bind, hfront]

/-- One after another is one of the schedules. -/
theorem forks_unforked :
    Forks h front fork back s ((unforked front fork back).run h s).1
      ((unforked front fork back).run h s).2 := by
  rcases hfront : front.run h s with ⟨r, s'⟩
  cases r with
  | error fault =>
    rw [run_unforked_early hfront]
    exact .early hfront
  | ok a =>
    obtain ⟨q, hruns, hover, hstate, hjoined⟩ := runs_inOrder (h := h) [] (fork a) s'
    rw [run_unforked hfront]
    rcases hfork : (inOrder (fork a)).run h s' with ⟨r, s''⟩
    rw [hfork] at hstate hjoined
    obtain rfl : q.state = s'' := hstate
    cases r with
    | error fault => exact .failing hfront hruns hover hjoined
    | ok bs => exact .through hfront hruns hover hjoined rfl

variable {p : C → Prop} {inv : σ → Prop} {rel : σ → σ → Prop}

/-- Whatever the schedule is, it leaves the state as the dialogues one after another do, and the
same comes of it, unless forked dialogues fail: then the fault of one of them does. -/
theorem forks_alike (hsteady : h.Steady p inv) (hdiffer : DifferOnly p h h rel)
    (hrefl : ∀ s, rel s s) (hinv : inv (front.run h s).2)
    (hfork : ∀ a, ∀ d ∈ fork a, d.Asks p) (hback : ∀ a bs, (back a bs).Asks (¬ p ·))
    {r : Except Fault γ} {t : σ} (hforks : Forks h front fork back s r t) :
    rel t ((unforked front fork back).run h s).2 ∧
      (r = ((unforked front fork back).run h s).1 ∨
        ∃ a s' fault fault', front.run h s = (.ok a, s') ∧ r = .error fault ∧
          ((unforked front fork back).run h s).1 = .error fault' ∧
          IsFaultOf h s' (fork a) fault ∧ IsFaultOf h s' (fork a) fault') := by
  cases hforks with
  | early hfront =>
    rw [run_unforked_early hfront]
    exact ⟨hrefl _, .inl rfl⟩
  | @failing a s' q fault hfront hruns hover hjoined =>
    rw [hfront] at hinv
    rcases hinOrder : (inOrder (fork a)).run h s' with ⟨r', s''⟩
    obtain ⟨hstate, hsame⟩ :=
      Pool.joined_alike hsteady hdiffer (hfork a) hinv (hrefl s') hruns hover hjoined hinOrder
    rw [run_unforked hfront, hinOrder]
    rcases hsame with heq | ⟨_, fault', ⟨⟩, heq, hfault, hfault'⟩
    · obtain rfl : .error fault = r' := heq
      exact ⟨hstate, .inl rfl⟩
    · obtain rfl : r' = .error fault' := heq
      exact ⟨hstate, .inr ⟨a, s', fault, fault', hfront, rfl, rfl, hfault, hfault'⟩⟩
  | @through a s' q bs _ _ hfront hruns hover hjoined hthrough =>
    rw [hfront] at hinv
    rcases hinOrder : (inOrder (fork a)).run h s' with ⟨r', s''⟩
    obtain ⟨hstate, hsame⟩ :=
      Pool.joined_alike hsteady hdiffer (hfork a) hinv (hrefl s') hruns hover hjoined hinOrder
    rw [run_unforked hfront, hinOrder]
    rcases hsame with heq | ⟨_, _, ⟨⟩, _⟩
    obtain rfl : .ok bs = r' := heq
    -- From related states the rest goes the same way.
    obtain ⟨-, hresult, hrest⟩ := (hback a bs).run_alike hdiffer hstate
    rw [hthrough] at hresult hrest
    exact ⟨hrest, .inl hresult⟩

end Forks

end FrameworkUpgrade.Dialogue
