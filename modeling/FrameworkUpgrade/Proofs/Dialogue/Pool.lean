import FrameworkUpgrade.Proofs.Dialogue.Course
import Mathlib.Data.List.Forall2
import Mathlib.Logic.Relation

/-!
# `FrameworkUpgrade.Proofs.Dialogue.Pool`: dialogues that are played at the same time

Several dialogues are played at the same time against one handler. A `Pool` has a task for each
of them and the state of the handler. A task waits, then it runs call by call, and it ends as its
dialogue does. `Pool.Step` is one step of one task, and it is open which one: a schedule is any
sequence of steps, so the calls of the dialogues mix in any way. Once a task has ended with a
fault, tasks that still wait may be dropped.

When all tasks are over, their results are joined: to the values in the order of the dialogues,
or to the fault of one of them. If there are several faults, it is open which one it is.
`Together` says what may come of it under some schedule.

Every schedule comes to an end (`wellFounded_step`, `exists_step`), against any handler. What
comes of it depends on the handler, because another schedule makes the calls in another order.
`Handler.Steady` excludes that. `together_iff` then states that it makes no difference that the
dialogues are played at the same time: their results are those of the dialogues played alone.

The invariant is `Pool.Bound`: every task heads for the result of its dialogue, and a task was
dropped only if another has failed. `Bound.step` is the step of it and `Bound.runs` the run.
-/

set_option autoImplicit false

namespace FrameworkUpgrade

/-- The calls that satisfy `p` are answered alike in all states that satisfy `inv`, and answers
and shown texts lead to such states. It makes no difference when a call is made. -/
structure Handler.Steady {C : Type} {Reply : C → Type} {σ : Type} (h : Handler Reply σ)
    (p : C → Prop) (inv : σ → Prop) : Prop where
  answer : ∀ c, p c → ∀ s s', inv s → inv s' → (h.answer c s).1 = (h.answer c s').1
  after : ∀ c, p c → ∀ s, inv s → inv (h.answer c s).2
  shown : ∀ text s, inv s → inv (h.display text s)

namespace Dialogue

variable {C : Type} {Reply : C → Type} {α σ : Type}

/-- A dialogue among others that are played at the same time. -/
inductive Task {C : Type} (Reply : C → Type) (α : Type) where
  | waiting (d : Dialogue Reply α)
  | running (d : Dialogue Reply α)
  | ended (r : Except Fault α)
  | dropped

/-- What a task has ended with. -/
def Task.result? : Task Reply α → Option (Except Fault α)
  | .ended r => some r
  | _ => none

/-- A task is over when it has ended or was dropped. -/
def Task.IsOver : Task Reply α → Prop
  | .waiting _ | .running _ => False
  | .ended _ | .dropped => True

/-- A task has ended with a fault. -/
def Failing (ts : List (Task Reply α)) : Prop :=
  ∃ fault, .ended (.error fault) ∈ ts

/-- Tasks, and the state of the handler that answers all of them. -/
structure Pool {C : Type} (Reply : C → Type) (α σ : Type) where
  tasks : List (Task Reply α)
  state : σ

namespace Pool

/-- Every dialogue waits. -/
def start (ds : List (Dialogue Reply α)) (s : σ) : Pool Reply α σ :=
  ⟨ds.map .waiting, s⟩

/-- A pool is over when all its tasks are. -/
def IsOver (q : Pool Reply α σ) : Prop :=
  ∀ t ∈ q.tasks, t.IsOver

/-- What the tasks have ended with, in the order of the tasks. -/
def results (q : Pool Reply α σ) : List (Except Fault α) :=
  q.tasks.filterMap Task.result?

end Pool

section Steps

variable (h : Handler Reply σ)

/-- One step of a task, from one state of the handler to another. -/
inductive Task.Step (failing : Prop) : Task Reply α → σ → Task Reply α → σ → Prop where
  | start (d : Dialogue Reply α) (s : σ) : Step failing (.waiting d) s (.running d) s
  | drop (hfailing : failing) (d : Dialogue Reply α) (s : σ) :
      Step failing (.waiting d) s .dropped s
  | say (text : String) (next : Dialogue Reply α) (s : σ) :
      Step failing (.running (.say text next)) s (.running next) (h.display text s)
  | ask (c : C) (next : Reply c → Dialogue Reply α) (s : σ) :
      Step failing (.running (.ask c next)) s (.running (next (h.answer c s).1)) (h.answer c s).2
  | value (a : α) (s : σ) : Step failing (.running (.done a)) s (.ended (.ok a)) s
  | fault (fault : Fault) (s : σ) :
      Step failing (.running (.fail fault)) s (.ended (.error fault)) s

/-- One step of one of several tasks. -/
inductive StepIn (failing : Prop) : List (Task Reply α) → σ → List (Task Reply α) → σ → Prop where
  | head {t t' : Task Reply α} {s s' : σ} (ts : List (Task Reply α))
      (hstep : t.Step h failing s t' s') : StepIn failing (t :: ts) s (t' :: ts) s'
  | tail (t : Task Reply α) {ts ts' : List (Task Reply α)} {s s' : σ}
      (hstep : StepIn failing ts s ts' s') : StepIn failing (t :: ts) s (t :: ts') s'

/-- One step of a pool: any of its tasks takes a step. -/
def Pool.Step (q q' : Pool Reply α σ) : Prop :=
  StepIn h (Failing q.tasks) q.tasks q.state q'.tasks q'.state

/-- A schedule: any number of steps. -/
abbrev Pool.Runs : Pool Reply α σ → Pool Reply α σ → Prop :=
  Relation.ReflTransGen (Pool.Step h)

/-- What may come of results that are joined: all values in order, or one of the faults. -/
inductive Joined : List (Except Fault α) → Except Fault (List α) → Prop where
  | ok {rs : List (Except Fault α)} {as : List α} (heq : rs = as.map .ok) : Joined rs (.ok as)
  | error {rs : List (Except Fault α)} {fault : Fault} (hmem : .error fault ∈ rs) :
      Joined rs (.error fault)

/-- Values come of results exactly if all of these are values, and then in their order. -/
theorem joined_ok_iff {rs : List (Except Fault α)} {as : List α} :
    Joined rs (.ok as) ↔ rs = as.map .ok := by
  constructor
  · intro hjoined
    cases hjoined with
    | ok heq => exact heq
  · exact .ok

/-- A fault comes of results exactly if it is one of them. -/
theorem joined_error_iff {rs : List (Except Fault α)} {fault : Fault} :
    Joined rs (.error fault) ↔ .error fault ∈ rs := by
  constructor
  · intro hjoined
    cases hjoined with
    | error hmem => exact hmem
  · exact .error

/-- Something comes of results that are joined. -/
theorem exists_joined (rs : List (Except Fault α)) : ∃ r, Joined rs r := by
  induction rs with
  | nil => exact ⟨.ok [], .ok rfl⟩
  | cons r rs ih =>
    obtain ⟨rest, hrest⟩ := ih
    cases r with
    | error fault => exact ⟨.error fault, .error List.mem_cons_self⟩
    | ok a =>
      cases hrest with
      | @ok as heq => exact ⟨.ok (a :: as), .ok (congrArg (.ok a :: ·) heq)⟩
      | error hmem => exact ⟨_, .error (List.mem_cons_of_mem _ hmem)⟩

/-- What may come of dialogues that are played at the same time: under some schedule all tasks
come to be over, and their results are joined. -/
def Together (ds : List (Dialogue Reply α)) (s : σ) (r : Except Fault (List α)) : Prop :=
  ∃ q, Pool.Runs h (.start ds s) q ∧ q.IsOver ∧ Joined q.results r

end Steps

/-! ### Schedules come to an end -/

section

variable {h : Handler Reply σ}

/-- A task comes after another by a step, in some state of the handler. -/
def Task.After (h : Handler Reply σ) (t' t : Task Reply α) : Prop :=
  ∃ failing s s', t.Step h failing s t' s'

/-- Nothing comes after a task that is over. -/
theorem Task.acc_of_isOver {t : Task Reply α} (hover : t.IsOver) : Acc (Task.After h) t := by
  refine .intro _ ?_
  rintro t' ⟨_, _, _, hstep⟩
  cases hstep <;> exact hover.elim

/-- A running task takes finitely many steps, because every step goes to a part of its
dialogue. -/
theorem Task.acc_running (d : Dialogue Reply α) : Acc (Task.After h) (.running d) := by
  induction d with
  | done a =>
    refine .intro _ ?_
    rintro _ ⟨_, _, _, ⟨⟩⟩
    exact Task.acc_of_isOver trivial
  | fail fault =>
    refine .intro _ ?_
    rintro _ ⟨_, _, _, ⟨⟩⟩
    exact Task.acc_of_isOver trivial
  | say text next ih =>
    refine .intro _ ?_
    rintro _ ⟨_, _, _, ⟨⟩⟩
    exact ih
  | ask c next ih =>
    refine .intro _ ?_
    rintro _ ⟨_, _, _, ⟨⟩⟩
    exact ih _

/-- No task takes steps for ever: every step takes it into its own dialogue. -/
theorem Task.acc (t : Task Reply α) : Acc (Task.After h) t := by
  cases t with
  | waiting d =>
    refine .intro _ ?_
    rintro _ ⟨_, _, _, hstep⟩
    cases hstep with
    | start => exact Task.acc_running d
    | drop => exact Task.acc_of_isOver trivial
  | running d => exact Task.acc_running d
  | ended r => exact Task.acc_of_isOver trivial
  | dropped => exact Task.acc_of_isOver trivial

/-- Tasks come after others by a step of one of them. -/
def TasksAfter (h : Handler Reply σ) (ts' ts : List (Task Reply α)) : Prop :=
  ∃ failing s s', StepIn h failing ts s ts' s'

/-- No list of tasks takes steps for ever, whichever of them takes the next. -/
theorem acc_tasksAfter (ts : List (Task Reply α)) : Acc (TasksAfter h) ts := by
  induction ts with
  | nil => exact .intro _ fun _ ⟨_, _, _, hstep⟩ => nomatch hstep
  | cons t ts ih =>
    -- The induction is on the first task and then on the others: a step of the first leaves
    -- theirs, and a step of theirs leaves the first.
    induction Task.acc (h := h) t generalizing ts with
    | intro t _ ihfirst =>
      induction ih with
      | intro ts hrest ihrest =>
        refine .intro _ ?_
        rintro _ ⟨failing, s, s', hstep⟩
        cases hstep with
        | head _ hstep => exact ihfirst _ ⟨failing, s, s', hstep⟩ ts (.intro ts hrest)
        | tail _ hstep => exact ihrest _ ⟨failing, s, s', hstep⟩

/-- No schedule goes on for ever. -/
theorem wellFounded_step (h : Handler Reply σ) :
    WellFounded fun q' q : Pool Reply α σ => q.Step h q' := by
  refine Subrelation.wf ?_ (InvImage.wf Pool.tasks ⟨acc_tasksAfter (h := h)⟩)
  intro q' q hstep
  exact ⟨_, _, _, hstep⟩

/-- A task that is not over can take a step in every state. -/
theorem Task.exists_step (failing : Prop) (s : σ) {t : Task Reply α} (hover : ¬ t.IsOver) :
    ∃ t' s', t.Step h failing s t' s' := by
  cases t with
  | waiting d => exact ⟨_, _, .start d s⟩
  | running d =>
    cases d with
    | done a => exact ⟨_, _, .value a s⟩
    | fail fault => exact ⟨_, _, .fault fault s⟩
    | say text next => exact ⟨_, _, .say text next s⟩
    | ask c next => exact ⟨_, _, .ask c next s⟩
  | ended r => exact absurd trivial hover
  | dropped => exact absurd trivial hover

/-- A step of a task is a step of the list in which it stands. -/
theorem StepIn.at {failing : Prop} {t t' : Task Reply α} {s s' : σ}
    (hstep : t.Step h failing s t' s') (front back : List (Task Reply α)) :
    StepIn h failing (front ++ t :: back) s (front ++ t' :: back) s' := by
  induction front with
  | nil => exact .head back hstep
  | cons u front ih => exact .tail u ih

/-- No schedule gets stuck: as long as a task is not over, one takes a step. -/
theorem exists_step {q : Pool Reply α σ} (hover : ¬ q.IsOver) : ∃ q', q.Step h q' := by
  obtain ⟨ts, s⟩ := q
  unfold Pool.IsOver at hover
  push Not at hover
  obtain ⟨t, ht, hover⟩ := hover
  obtain ⟨front, back, rfl⟩ := List.append_of_mem ht
  obtain ⟨t', s', hstep⟩ := Task.exists_step (h := h) (Failing (front ++ t :: back)) s hover
  exact ⟨⟨front ++ t' :: back, s'⟩, StepIn.at hstep front back⟩

/-- Every pool comes to be over. -/
theorem exists_isOver (h : Handler Reply σ) (q : Pool Reply α σ) :
    ∃ q', Pool.Runs h q q' ∧ q'.IsOver := by
  induction q using (wellFounded_step h).induction with
  | _ q ih =>
    by_cases hover : q.IsOver
    · exact ⟨q, .refl, hover⟩
    · obtain ⟨q', hstep⟩ := exists_step (h := h) hover
      obtain ⟨q'', hruns, hover'⟩ := ih q' hstep
      exact ⟨q'', .head hstep hruns, hover'⟩

/-! ### What stays -/

/-- A task that has ended stays so. -/
theorem StepIn.mem_ended {failing : Prop} {ts ts' : List (Task Reply α)} {s s' : σ}
    (hstep : StepIn h failing ts s ts' s') {r : Except Fault α} (hr : .ended r ∈ ts) :
    .ended r ∈ ts' := by
  induction hstep with
  | head ts hstep =>
    rcases List.mem_cons.mp hr with rfl | hr
    · cases hstep
    · exact List.mem_cons_of_mem _ hr
  | tail t _ ih =>
    rcases List.mem_cons.mp hr with rfl | hr
    · exact List.mem_cons_self
    · exact List.mem_cons_of_mem _ (ih hr)

/-- A task that was dropped was so before, or a task has failed. -/
theorem StepIn.mem_dropped {failing : Prop} {ts ts' : List (Task Reply α)} {s s' : σ}
    (hstep : StepIn h failing ts s ts' s') (hdropped : .dropped ∈ ts') :
    .dropped ∈ ts ∨ failing := by
  induction hstep with
  | head ts hstep =>
    rcases List.mem_cons.mp hdropped with rfl | hdropped
    · cases hstep with
      | drop hfailing => exact .inr hfailing
    · exact .inl (List.mem_cons_of_mem _ hdropped)
  | tail t _ ih =>
    rcases List.mem_cons.mp hdropped with rfl | hdropped
    · exact .inl List.mem_cons_self
    · exact (ih hdropped).imp_left (List.mem_cons_of_mem _)

/-- A result stays, whatever the other tasks do. -/
theorem mem_ended_of_runs {q q' : Pool Reply α σ} (hruns : Pool.Runs h q q')
    {r : Except Fault α} (hr : .ended r ∈ q.tasks) : .ended r ∈ q'.tasks := by
  induction hruns with
  | refl => exact hr
  | tail _ hstep ih => exact hstep.mem_ended ih

/-- The results of a pool are those that its tasks have ended with. -/
theorem Pool.mem_results {q : Pool Reply α σ} {r : Except Fault α} :
    r ∈ q.results ↔ .ended r ∈ q.tasks := by
  rw [results, List.mem_filterMap]
  constructor
  · rintro ⟨t, ht, hr⟩
    cases t with
    | ended r' =>
      cases hr
      exact ht
    | _ => cases hr
  · intro hr
    exact ⟨_, hr, rfl⟩

/-- Some task has failed exactly if a fault is among the results. -/
theorem Pool.failing_iff {q : Pool Reply α σ} :
    Failing q.tasks ↔ ∃ fault, .error fault ∈ q.results := by
  simp only [Failing, Pool.mem_results]

/-- A task may run to its end while no other takes a step. -/
theorem runs_running (d : Dialogue Reply α) (s : σ) (front back : List (Task Reply α)) :
    Pool.Runs h ⟨front ++ .running d :: back, s⟩
      ⟨front ++ .ended (d.run h s).1 :: back, (d.run h s).2⟩ := by
  have hfirst {t t' : Task Reply α} {s s' : σ}
      (hstep : t.Step h (Failing (front ++ t :: back)) s t' s') :
      Pool.Step h ⟨front ++ t :: back, s⟩ ⟨front ++ t' :: back, s'⟩ :=
    StepIn.at hstep front back
  induction d generalizing s with
  | done a => exact .single (hfirst (.value a s))
  | fail fault => exact .single (hfirst (.fault fault s))
  | say text next ih => exact .head (hfirst (.say text next s)) (ih _)
  | ask c next ih => exact .head (hfirst (.ask c next s)) (ih _ _)

/-- A task that waits may start and run to its end while no other takes a step. -/
theorem runs_waiting (d : Dialogue Reply α) (s : σ) (front back : List (Task Reply α)) :
    Pool.Runs h ⟨front ++ .waiting d :: back, s⟩
      ⟨front ++ .ended (d.run h s).1 :: back, (d.run h s).2⟩ := by
  have hstart : Pool.Step h ⟨front ++ .waiting d :: back, s⟩ ⟨front ++ .running d :: back, s⟩ :=
    StepIn.at (.start d s) front back
  exact .head hstart (runs_running d s front back)

/-! ### Steady handlers -/

variable {p : C → Prop} {inv : σ → Prop}

/-- A dialogue ends in the same way whenever it is played against a steady handler. -/
theorem Asks.run_congr {d : Dialogue Reply α} (hd : d.Asks p) (hsteady : h.Steady p inv)
    {s s' : σ} (hs : inv s) (hs' : inv s') : (d.run h s).1 = (d.run h s').1 := by
  induction hd generalizing s s' with
  | done a => rfl
  | fail fault => rfl
  | say text _ ih => exact ih (hsteady.shown text s hs) (hsteady.shown text s' hs')
  | @ask c hc next _ ih =>
    -- Both plays are given the same reply, so they go on with the same dialogue.
    show ((next (h.answer c s).1).run h _).1 = ((next (h.answer c s').1).run h _).1
    rw [hsteady.answer c hc s s' hs hs']
    exact ih _ (hsteady.after c hc s hs) (hsteady.after c hc s' hs')

/-- A task that will end with the result, or has ended with it, or was dropped. -/
inductive Task.HeadsFor (h : Handler Reply σ) (p : C → Prop) (inv : σ → Prop)
    (r : Except Fault α) : Task Reply α → Prop where
  | waiting {d : Dialogue Reply α} (hasks : d.Asks p) (hrun : ∀ s, inv s → (d.run h s).1 = r) :
      HeadsFor h p inv r (.waiting d)
  | running {d : Dialogue Reply α} (hasks : d.Asks p) (hrun : ∀ s, inv s → (d.run h s).1 = r) :
      HeadsFor h p inv r (.running d)
  | ended : HeadsFor h p inv r (.ended r)
  | dropped : HeadsFor h p inv r .dropped

/-- A step of a task that makes steady calls leaves it heading for the same result, and the
invariant as it is. -/
theorem Task.HeadsFor.step (hsteady : h.Steady p inv) {failing : Prop} {t t' : Task Reply α}
    {s s' : σ} {r : Except Fault α} (ht : t.HeadsFor h p inv r) (hs : inv s)
    (hstep : t.Step h failing s t' s') : t'.HeadsFor h p inv r ∧ inv s' := by
  cases hstep with
  | start d =>
    cases ht with
    | waiting hasks hrun => exact ⟨.running hasks hrun, hs⟩
  | drop => exact ⟨.dropped, hs⟩
  | say text next =>
    cases ht with
    | running hasks hrun =>
      cases hasks with
      | say _ hnext =>
        have hs' := hsteady.shown text s hs
        refine ⟨.running hnext ?_, hs'⟩
        -- Other tasks may change the state before this one goes on, but not its result.
        intro s₁ hs₁
        rw [hnext.run_congr hsteady hs₁ hs']
        exact hrun s hs
  | ask c next =>
    cases ht with
    | running hasks hrun =>
      cases hasks with
      | ask hc hnext =>
        have hs' := hsteady.after c hc s hs
        refine ⟨.running (hnext _) ?_, hs'⟩
        intro s₁ hs₁
        rw [(hnext _).run_congr hsteady hs₁ hs']
        exact hrun s hs
  | value a =>
    cases ht with
    | running _ hrun =>
      obtain rfl : .ok a = r := hrun s hs
      exact ⟨.ended, hs⟩
  | fault fault =>
    cases ht with
    | running _ hrun =>
      obtain rfl : .error fault = r := hrun s hs
      exact ⟨.ended, hs⟩

/-- Every task heads for its result, and a task was dropped only if another has failed. -/
structure Pool.Bound (h : Handler Reply σ) (p : C → Prop) (inv : σ → Prop)
    (rs : List (Except Fault α)) (q : Pool Reply α σ) : Prop where
  state : inv q.state
  heads : List.Forall₂ (Task.HeadsFor h p inv) rs q.tasks
  dropped : .dropped ∈ q.tasks → Failing q.tasks

/-- A step of one of several tasks leaves all of them heading for their results: the others have not
moved, and it takes no notice of the state. -/
theorem headsFor_stepIn (hsteady : h.Steady p inv) {failing : Prop}
    {ts ts' : List (Task Reply α)} {s s' : σ} (hstep : StepIn h failing ts s ts' s')
    {rs : List (Except Fault α)} (hs : inv s)
    (hheads : List.Forall₂ (Task.HeadsFor h p inv) rs ts) :
    List.Forall₂ (Task.HeadsFor h p inv) rs ts' ∧ inv s' := by
  induction hstep generalizing rs with
  | head ts hstep =>
    cases hheads with
    | cons ht hts =>
      obtain ⟨ht', hs'⟩ := ht.step hsteady hs hstep
      exact ⟨.cons ht' hts, hs'⟩
  | tail t _ ih =>
    cases hheads with
    | cons ht hts =>
      obtain ⟨hts', hs'⟩ := ih hs hts
      exact ⟨.cons ht hts', hs'⟩

namespace Pool.Bound

variable {rs : List (Except Fault α)} {q q' : Pool Reply α σ}

/-- A step leaves a pool bound to its results. -/
theorem step (hsteady : h.Steady p inv) (hq : q.Bound h p inv rs) (hstep : q.Step h q') :
    q'.Bound h p inv rs := by
  obtain ⟨hheads, hstate⟩ := headsFor_stepIn hsteady hstep hq.state hq.heads
  refine ⟨hstate, hheads, ?_⟩
  intro hdropped
  -- What has failed before the step is still there after it.
  have hfailing : Failing q.tasks := (hstep.mem_dropped hdropped).elim hq.dropped id
  obtain ⟨fault, hfault⟩ := hfailing
  exact ⟨fault, hstep.mem_ended hfault⟩

/-- So does a run of steps. -/
theorem runs (hsteady : h.Steady p inv) (hq : q.Bound h p inv rs)
    (hruns : Pool.Runs h q q') : q'.Bound h p inv rs := by
  induction hruns with
  | refl => exact hq
  | tail _ hstep ih => exact ih.step hsteady hstep

/-- The results so far are among those that the tasks head for, and in their order. -/
theorem results_sublist (hq : q.Bound h p inv rs) : q.results.Sublist rs := by
  have hheads := hq.heads
  rw [results]
  clear hq
  generalize q.tasks = ts at hheads ⊢
  induction hheads with
  | nil => exact .slnil
  | cons ht _ ih =>
    cases ht with
    | ended => exact ih.cons_cons _
    | _ => exact ih.cons _

/-- When all tasks are over and none has failed, the results are all there. -/
theorem results_eq (hq : q.Bound h p inv rs) (hover : q.IsOver) (hfailing : ¬ Failing q.tasks) :
    q.results = rs := by
  refine hq.results_sublist.eq_of_length ?_
  rw [hq.heads.length_eq, results, List.filterMap_length_eq_length]
  intro t ht
  cases t with
  | ended r => rfl
  -- A task that was dropped needs one that has failed.
  | dropped => exact absurd (hq.dropped ht) hfailing
  | waiting d => exact (hover _ ht).elim
  | running d => exact (hover _ ht).elim

end Pool.Bound

variable {ds : List (Dialogue Reply α)} {s : σ}

/-- What a dialogue ends with when it is played alone. -/
def alone (h : Handler Reply σ) (s : σ) (d : Dialogue Reply α) : Except Fault α :=
  (d.run h s).1

/-- Before the first step a pool is bound to what comes of each dialogue alone. -/
theorem bound_start (hsteady : h.Steady p inv) (hasks : ∀ d ∈ ds, d.Asks p) (hs : inv s) :
    (Pool.start ds s).Bound h p inv (ds.map (alone h s)) where
  state := hs
  heads := by
    show List.Forall₂ _ (ds.map (alone h s)) (ds.map Task.waiting)
    rw [List.forall₂_map_left_iff, List.forall₂_map_right_iff, List.forall₂_same]
    intro d hd
    refine .waiting (hasks d hd) ?_
    intro s' hs'
    exact (hasks d hd).run_congr hsteady hs' hs
  dropped hmem := by
    obtain ⟨d, -, hd⟩ := List.mem_map.mp hmem
    cases hd

/-- A dialogue that is started first and runs to its end leaves its result in the pool. -/
theorem exists_runs_mem {d : Dialogue Reply α} (hd : d ∈ ds) :
    ∃ q, Pool.Runs h (.start ds s) q ∧ q.IsOver ∧ alone h s d ∈ q.results := by
  obtain ⟨before, after, rfl⟩ := List.append_of_mem hd
  -- The dialogue runs to its end first, and then the schedule goes on in any way.
  have hruns := runs_waiting (h := h) d s (before.map .waiting) (after.map .waiting)
  obtain ⟨q, hrest, hover⟩ := exists_isOver h
    ⟨before.map .waiting ++ .ended (d.run h s).1 :: after.map .waiting, (d.run h s).2⟩
  refine ⟨q, ?_, hover, ?_⟩
  · rw [Pool.start, List.map_append, List.map_cons]
    exact hruns.trans hrest
  · rw [Pool.mem_results]
    exact mem_ended_of_runs hrest (List.mem_append_right _ List.mem_cons_self)

/-- Against a steady handler, what may come of dialogues that are played at the same time is what
may come of their results, each of them played alone. -/
theorem together_iff (hsteady : h.Steady p inv) (hasks : ∀ d ∈ ds, d.Asks p) (hs : inv s)
    {r : Except Fault (List α)} :
    Together h ds s r ↔ Joined (ds.map (alone h s)) r := by
  have hstart := bound_start hsteady hasks hs
  constructor
  · rintro ⟨q, hruns, hover, hjoined⟩
    have hq := hstart.runs hsteady hruns
    cases hjoined with
    | ok heq =>
      have hfailing : ¬ Failing q.tasks := by
        rw [Pool.failing_iff, heq]
        simp
      rw [← hq.results_eq hover hfailing, heq]
      exact .ok rfl
    | error hmem => exact .error (hq.results_sublist.subset hmem)
  · intro hjoined
    cases hjoined with
    | ok heq =>
      -- Any schedule will do, because no dialogue has a fault to end with.
      obtain ⟨q, hruns, hover⟩ := exists_isOver h (.start ds s)
      have hq := hstart.runs hsteady hruns
      have hfailing : ¬ Failing q.tasks := by
        intro hfailing
        obtain ⟨fault, hfault⟩ := Pool.failing_iff.mp hfailing
        have hmem := hq.results_sublist.subset hfault
        rw [heq] at hmem
        simp at hmem
      refine ⟨q, hruns, hover, .ok ?_⟩
      rw [hq.results_eq hover hfailing, heq]
    | error hmem =>
      obtain ⟨d, hd, hfault⟩ := List.mem_map.mp hmem
      obtain ⟨q, hruns, hover, hresult⟩ := exists_runs_mem (h := h) (s := s) hd
      exact ⟨q, hruns, hover, .error (hfault ▸ hresult)⟩

/-! ### One after another -/

/-- Dialogues that are played one after another, up to the first fault. -/
def inOrder : List (Dialogue Reply α) → Dialogue Reply (List α)
  | [] => .done []
  | d :: ds => do
    let a ← d
    let as ← inOrder ds
    return a :: as

/-- The first dialogue is played, and the others from where it leaves off, unless it fails. -/
theorem run_inOrder_cons (d : Dialogue Reply α) (ds : List (Dialogue Reply α)) (s : σ) :
    (inOrder (d :: ds)).run h s =
      match d.run h s with
      | (.ok a, s') => (((inOrder ds).run h s').1.map (a :: ·), ((inOrder ds).run h s').2)
      | (.error fault, s') => (.error fault, s') := by
  show (d >>= fun a => inOrder ds >>= fun as => pure (a :: as)).run h s = _
  rw [run_bind]
  rcases d.run h s with ⟨r, s'⟩
  cases r with
  | error fault => rfl
  | ok a =>
    show (inOrder ds >>= fun as => pure (a :: as)).run h s' =
      (((inOrder ds).run h s').1.map (a :: ·), ((inOrder ds).run h s').2)
    rw [run_bind]
    rcases (inOrder ds).run h s' with ⟨r', s''⟩
    cases r' <;> rfl

/-- Once a task has failed, all that still wait may be dropped. -/
theorem runs_drop {front : List (Task Reply α)} (hfailing : Failing front)
    (ds : List (Dialogue Reply α)) (s : σ) :
    Pool.Runs h ⟨front ++ ds.map .waiting, s⟩ ⟨front ++ ds.map fun _ => .dropped, s⟩ := by
  induction ds generalizing front with
  | nil => exact .refl
  | cons d ds ih =>
    obtain ⟨fault, hfault⟩ := hfailing
    have hdrop : Pool.Step h ⟨front ++ .waiting d :: ds.map .waiting, s⟩
        ⟨front ++ .dropped :: ds.map .waiting, s⟩ :=
      StepIn.at (.drop ⟨fault, List.mem_append_left _ hfault⟩ d s) front _
    have hstill : Failing (front ++ [.dropped]) := ⟨fault, List.mem_append_left _ hfault⟩
    have hrest := ih hstill
    simp only [List.append_assoc, List.singleton_append] at hrest
    exact .head hdrop hrest

/-- The results of tasks that have ended with values are these. -/
theorem results_values (as : List α) (s : σ) :
    (⟨as.map fun a => .ended (.ok a), s⟩ : Pool Reply α σ).results = as.map .ok := by
  simp [Pool.results, List.filterMap_map, Function.comp_def, Task.result?]

/-- A pool is over if its tasks have ended with values up to a fault, and the others are dropped. -/
theorem isOver_values_fault (as : List α) (fault : Fault) (ds : List (Dialogue Reply α)) (s : σ) :
    (⟨(as.map fun a => .ended (.ok a)) ++ .ended (.error fault) :: ds.map fun _ => .dropped, s⟩ :
      Pool Reply α σ).IsOver := by
  intro t ht
  rcases List.mem_append.mp ht with ht | ht
  · obtain ⟨a, -, rfl⟩ := List.mem_map.mp ht
    trivial
  · rcases List.mem_cons.mp ht with rfl | ht
    · trivial
    · obtain ⟨_, -, rfl⟩ := List.mem_map.mp ht
      trivial

/-- Values that are put in front of a result one after another are put there together. -/
theorem map_append_cons (as : List α) (a : α) (r : Except Fault (List α)) :
    (r.map (a :: ·)).map (as ++ ·) = r.map (as ++ [a] ++ ·) := by
  cases r with
  | ok as' => simp [Except.map]
  | error fault => rfl

/-- Behind tasks that have ended with values, the others may be run one after another, up to the
first fault. -/
theorem runs_inOrder (as : List α) (ds : List (Dialogue Reply α)) (s : σ) :
    ∃ q, Pool.Runs h ⟨(as.map fun a => .ended (.ok a)) ++ ds.map .waiting, s⟩ q ∧ q.IsOver ∧
      q.state = ((inOrder ds).run h s).2 ∧
      Joined q.results (((inOrder ds).run h s).1.map (as ++ ·)) := by
  induction ds generalizing as s with
  | nil =>
    refine ⟨_, .refl, ?_, rfl, .ok ?_⟩
    · intro t ht
      obtain ⟨a, -, rfl⟩ : ∃ a ∈ as, Task.ended (.ok a) = t := by simpa using ht
      trivial
    · rw [List.map_nil, List.append_nil, results_values]
      exact congrArg _ (List.append_nil as).symm
  | cons d ds ih =>
    -- The first task that waits runs to its end.
    have hfirst := runs_waiting (h := h) d s (as.map fun a => .ended (.ok a)) (ds.map .waiting)
    rw [run_inOrder_cons]
    rcases hd : d.run h s with ⟨r, s'⟩
    rw [hd] at hfirst
    cases r with
    | ok a =>
      obtain ⟨q, hruns, hover, hstate, hjoined⟩ := ih (as ++ [a]) s'
      simp only [List.map_append, List.map_cons, List.map_nil, List.append_assoc,
        List.singleton_append] at hruns
      refine ⟨q, hfirst.trans hruns, hover, hstate, ?_⟩
      rw [map_append_cons]
      exact hjoined
    | error fault =>
      have hfailing : Failing ((as.map fun a => .ended (.ok a)) ++ [.ended (.error fault)] :
          List (Task Reply α)) :=
        ⟨fault, List.mem_append_right _ List.mem_cons_self⟩
      have hdrop := runs_drop (h := h) hfailing ds s'
      simp only [List.append_assoc, List.singleton_append] at hdrop
      refine ⟨_, hfirst.trans hdrop, isOver_values_fault as fault ds s', rfl, .error ?_⟩
      rw [Pool.mem_results]
      exact List.mem_append_right _ List.mem_cons_self

/-- What comes of dialogues one after another may come of them at the same time. -/
theorem together_inOrder (h : Handler Reply σ) (ds : List (Dialogue Reply α)) (s : σ) :
    Together h ds s ((inOrder ds).run h s).1 := by
  obtain ⟨q, hruns, hover, -, hjoined⟩ := runs_inOrder (h := h) [] ds s
  refine ⟨q, hruns, hover, ?_⟩
  cases hresult : ((inOrder ds).run h s).1 with
  | ok as => simpa [hresult, Except.map] using hjoined
  | error fault => simpa [hresult, Except.map] using hjoined

end

end Dialogue

end FrameworkUpgrade
