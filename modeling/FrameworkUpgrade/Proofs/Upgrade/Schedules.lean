import FrameworkUpgrade.Proofs.Dialogue.Fork
import FrameworkUpgrade.Proofs.Upgrade.Parallel

/-!
# `FrameworkUpgrade.Proofs.Upgrade.Schedules`: an upgrade under every schedule

`Upgrade.run` resolves the peers one after another, and `Resolve.AtOnce` says what may come of them
at the same time. `RunsAtOnce` is an upgrade that resolves them so: it forks behind its `opening`
and goes on with its `closing`. `run_eq_unforked` states that `run` is the same upgrade with the
searches in order.

`runsAtOnce` states that the schedule of the searches decides nothing but which fault is reported
when several searches fail. The registry has to answer in the same way at any time, and what it is
asked may not bear on the answers to other calls. Whatever is proved of the completed upgrades of
`run` then holds of the outcome under every schedule, because it is the same outcome.
-/

set_option autoImplicit false

namespace FrameworkUpgrade

open Dialogue

namespace Upgrade

/-! ### An upgrade in two parts -/

/-- What an upgrade knows when it comes to its peers. -/
structure Opened where
  target : Target
  installed : Version
  applicable : List Codemod
  manifest : Manifest

/-- An upgrade up to its peers, or up to its outcome if there is nothing to do. -/
def opening (x : Context) (token : String) : Script (Outcome ⊕ Opened) := do
  line "\n1. Resolving target revision..."
  let target ← Resolve.target frameworkPackage token
  line s!"✓ Target version: {frameworkPackage}@{target.version}"
  line "\n2. Comparing with the installed version..."
  let installed ← Dialogue.demand (← Script.call (.installed frameworkPackage))
  match Plan.decide x.catalog installed target.version with
  | .alreadyCurrent =>
    line (s!"✓ Current Next.js version v{installed} is already on or higher than the target "
      ++ s!"version v{target.version}")
    return .inl (.alreadyCurrent installed target.version)
  | .applicable applicable =>
    line s!"   {frameworkPackage} {installed} → {target.version}"
    let manifest ← Dialogue.demand (← Script.call .readManifest)
    line "\n3. Resolving compatible peer dependency versions..."
    return .inr ⟨target, installed, applicable, manifest⟩

/-- The packages that are wanted behind an opening. -/
def wantedBehind : Outcome ⊕ Opened → List Wanted
  | .inl _ => []
  | .inr o => wantedPeers o.target o.manifest

/-- An upgrade behind its peers. -/
def closing (x : Context) : Outcome ⊕ Opened → List Pin → Script Outcome
  | .inl outcome, _ => return outcome
  | .inr o, pins => do
    let peers := withReactDom pins
    peers.forM fun p => line s!"   • {p.specifier}"
    line "\n4. Selecting codemods..."
    let codemods ← Plan.chosen x.prompts o.applicable
    let followUps ← FollowUp.wanted x.prompts o.target peers o.manifest
    line (if codemods.isEmpty then "   No codemods to apply"
      else s!"   {codemods.length} codemod(s) selected")
    let report ← commit x
      { installed := o.installed, target := o.target.version, manifest := o.manifest, codemods,
        followUps, pins := ⟨frameworkPackage, o.target.version⟩ :: peers }
    return .completed report

/-- An upgrade resolves its peers between its opening and its closing. -/
theorem run_eq (x : Context) (token : String) :
    run x token = opening x token >>= fun o => Resolve.peers (wantedBehind o) >>= closing x o := by
  unfold run opening
  simp only [Dialogue.bind_assoc]
  -- Up to the decision both sides are the same.
  refine bind_congr fun _ => bind_congr fun target => bind_congr fun _ => bind_congr fun _ =>
    bind_congr fun reply => bind_congr fun installed => ?_
  cases Plan.decide x.catalog installed target.version with
  | alreadyCurrent => rfl
  | applicable applicable =>
    simp only [Dialogue.bind_assoc, prepareNewer]
    rfl

/-- Behind its peers, an upgrade does not ask again what a package has published. -/
theorem asks_closing (x : Context) (o : Outcome ⊕ Opened) (pins : List Pin) :
    (closing x o pins).Asks fun c => ¬ ∃ package, c = .published package := by
  cases o with
  | inl outcome => exact .done _
  | inr o =>
    refine Asks.bind (asks_forM_line _ _ _) fun _ => Asks.bind (asks_line _ _) fun _ =>
      Asks.bind ?_ fun codemods => Asks.bind ?_ fun followUps => Asks.bind (asks_line _ _) fun _ =>
      Asks.bind ?_ fun report => .done _
    · refine (Plan.asks_chosen _ _).mono ?_
      rintro _ rfl
      exact nofun
    · refine (FollowUp.asks_wanted _ _ _ _).mono ?_
      rintro _ (rfl | ⟨_, rfl⟩) <;> exact nofun
    · exact asks_commit_of (fun _ => nofun) (fun _ _ => nofun) (fun _ _ => nofun) fun _ => nofun

/-! ### Under every schedule -/

variable {σ : Type}

/-- What may come of an upgrade that resolves its peers at the same time, and the state that is
left. -/
def RunsAtOnce (h : Handler Call.Reply σ) (x : Context) (token : String) (s : σ) :
    Except Fault Outcome → σ → Prop :=
  Forks h (opening x token) (fun o => (wantedBehind o).map Resolve.peer) (closing x) s

/-- An upgrade is the one that forks, with the searches one after another. -/
theorem run_eq_unforked (x : Context) (token : String) :
    run x token =
      unforked (opening x token) (fun o => (wantedBehind o).map Resolve.peer) (closing x) := by
  simp only [run_eq, Resolve.peers_eq_inOrder]
  rfl

/-- The fault of a search that an upgrade makes for one of its peers. -/
def IsPeerFault (h : Handler Call.Reply σ) (x : Context) (token : String) (s : σ)
    (fault : Fault) : Prop :=
  ∃ o s', (opening x token).run h s = (.ok o, s') ∧
    ∃ w ∈ wantedBehind o, ∃ cause,
      Resolve.searched h s' w.package w.query = .error cause ∧ fault = .peer w.package cause

/-- The fault of a forked dialogue is that of the search for a peer. -/
theorem isPeerFault_of_isFaultOf {h : Handler Call.Reply σ} {x : Context} {token : String}
    {s s' : σ} {o : Outcome ⊕ Opened} (hopening : (opening x token).run h s = (.ok o, s'))
    {fault : Fault} (hfault : IsFaultOf h s' ((wantedBehind o).map Resolve.peer) fault) :
    IsPeerFault h x token s fault := by
  obtain ⟨d, hd, halone⟩ := hfault
  obtain ⟨w, hw, rfl⟩ := List.mem_map.mp hd
  exact ⟨o, s', hopening, w, hw, Resolve.alone_peer_eq_error.mp halone⟩

/-- What may come of an upgrade that resolves its peers at the same time, against what comes of one
that resolves them one after another:

- `sequential`: the latter is one of the former;
- `state`: the states that are left are related;
- `outcome`, `only`: an outcome comes of some schedule exactly if it comes of the searches in
  order, and then nothing else comes of any schedule;
- `fault`: a fault that comes of a schedule is the one of the searches in order, or that of a
  search for a peer. -/
structure ScheduleFree (h : Handler Call.Reply σ) (rel : σ → σ → Prop) (x : Context)
    (token : String) (s : σ) : Prop where
  sequential : RunsAtOnce h x token s ((run x token).run h s).1 ((run x token).run h s).2
  state : ∀ r t, RunsAtOnce h x token s r t → rel t ((run x token).run h s).2
  outcome : ∀ o, (∃ t, RunsAtOnce h x token s (.ok o) t) ↔ ((run x token).run h s).1 = .ok o
  only : ∀ o, ((run x token).run h s).1 = .ok o → ∀ r t, RunsAtOnce h x token s r t → r = .ok o
  fault : ∀ fault t, RunsAtOnce h x token s (.error fault) t →
    ((run x token).run h s).1 = .error fault ∨
      IsPeerFault h x token s fault ∧
        ∃ fault', ((run x token).run h s).1 = .error fault' ∧ IsPeerFault h x token s fault'

/-- Against a registry that answers in the same way at any time, and where asking it has no bearing
on other answers, the schedule of the searches makes no difference but to which fault is
reported. -/
theorem runsAtOnce {h : Handler Call.Reply σ} {inv : σ → Prop} {rel : σ → σ → Prop}
    (hsteady : SteadyRegistry h inv) (hkept : ∀ c s, inv s → inv (h.answer c s).2)
    (hdiffer : DifferOnly (fun c => ∃ package, c = .published package) h h rel)
    (hrefl : ∀ s, rel s s) (x : Context) (token : String) {s : σ} (hs : inv s) :
    ScheduleFree h rel x token s := by
  have hopening : inv ((opening x token).run h s).2 := keeps_run hkept hsteady.shown _ hs
  have halike {r : Except Fault Outcome} {t : σ} (hr : RunsAtOnce h x token s r t) :=
    forks_alike hsteady hdiffer hrefl hopening (fun o => Resolve.asks_peer (wantedBehind o))
      (asks_closing x) hr
  -- Whatever comes of a schedule is now compared with `run` itself.
  rw [← run_eq_unforked] at halike
  have hsequential :
      RunsAtOnce h x token s ((run x token).run h s).1 ((run x token).run h s).2 := by
    rw [run_eq_unforked]
    exact forks_unforked
  have hsame {o : Outcome} {t : σ} (hr : RunsAtOnce h x token s (.ok o) t) :
      ((run x token).run h s).1 = .ok o := by
    rcases (halike hr).2 with heq | ⟨_, _, _, _, _, ⟨⟩, _⟩
    exact heq.symm
  refine ⟨hsequential, fun r t hr => (halike hr).1, fun o => ⟨?_, ?_⟩, ?_, ?_⟩
  · rintro ⟨t, hr⟩
    exact hsame hr
  · intro heq
    exact ⟨_, heq ▸ hsequential⟩
  · intro o heq r t hr
    rcases (halike hr).2 with hr' | ⟨_, _, _, _, _, _, herror, _⟩
    · rw [hr', heq]
    · rw [heq] at herror
      cases herror
  · intro fault t hr
    rcases (halike hr).2 with heq | ⟨o, s', _, fault', hfront, ⟨⟩, herror, hfault, hfault'⟩
    · exact .inl heq.symm
    · exact .inr ⟨isPeerFault_of_isFaultOf hfront hfault, fault', herror,
        isPeerFault_of_isFaultOf hfront hfault'⟩

/-! ### Rehearsals -/

/-- Two rehearsals are the same but for what they have recorded. -/
def SameButRecord (r r' : Rehearsal) : Prop :=
  ∃ calls output, r' = { r with calls, output }

/-- No reply of a rehearsal depends on its record, and what a package has published is answered
without a change to anything else. -/
theorem differOnly_rehearsal :
    DifferOnly (fun c => ∃ package, c = .published package) Rehearsal.handler Rehearsal.handler
      SameButRecord where
  answer := by
    rintro r _ ⟨calls, output, rfl⟩ c -
    cases c with
    | writeManifest => simp only [Rehearsal.handler, Rehearsal.reply]; split <;> rfl
    | _ => rfl
  after := by
    rintro r _ ⟨calls, output, rfl⟩ c -
    refine ⟨calls ++ [c], output, ?_⟩
    cases c with
    | writeManifest => simp only [Rehearsal.handler, Rehearsal.reply]; split <;> rfl
    | _ => rfl
  afterLeft := by
    rintro r _ ⟨calls, output, rfl⟩ _ ⟨package, rfl⟩
    exact ⟨calls, output, rfl⟩
  afterRight := by
    rintro r _ ⟨calls, output, rfl⟩ _ ⟨package, rfl⟩
    exact ⟨calls ++ [.published package], output, rfl⟩
  displayLeft := by
    rintro r _ ⟨calls, output, rfl⟩ text
    exact ⟨calls, output, rfl⟩
  displayRight := by
    rintro r _ ⟨calls, output, rfl⟩ text
    exact ⟨calls, output ++ text, rfl⟩

/-- No reply of a rehearsal changes its registry. -/
theorem registry_answer (c : Call) (r : Rehearsal) :
    (Rehearsal.handler.answer c r).2.registry = r.registry := by
  cases c with
  | writeManifest => simp only [Rehearsal.handler, Rehearsal.reply]; split <;> rfl
  | _ => rfl

/-- The schedule makes no difference to a rehearsal but to its record, and to which fault is
reported. -/
theorem runsAtOnce_rehearsal (x : Context) (token : String) (r : Rehearsal) :
    ScheduleFree Rehearsal.handler SameButRecord x token r :=
  runsAtOnce (Resolve.steady_rehearsal r.registry)
    (fun c _ hregistry => (registry_answer c _).trans hregistry) differOnly_rehearsal
    (fun s => ⟨s.calls, s.output, rfl⟩) x token rfl

end Upgrade

end FrameworkUpgrade
