import FrameworkUpgrade.Proofs.Dialogue.Pool
import FrameworkUpgrade.Proofs.Upgrade.Parts
import FrameworkUpgrade.Proofs.Upgrade.Search
import FrameworkUpgrade.Upgrade.Rehearsal
import Mathlib.Data.Fin.Rev

/-!
# `FrameworkUpgrade.Proofs.Upgrade.Parallel`: peers that are resolved at the same time

Peers are independent of one another, so their searches may be made at the same time, and
`AtOnce` says what may come of that. `Resolve.peers` makes them one after another.

`peersAtOnce` states that against a registry whose answers do not depend on when it is asked it
makes no difference. The pins come of it in the order of the wanted packages, or the fault of a
package whose search fails. If there are several of these, the schedule decides which one it is,
and each of them can be it. The registry may keep a record of what it is asked: the record
depends on the schedule and the pins do not.
-/

set_option autoImplicit false

namespace FrameworkUpgrade

open Dialogue

/-- A handler whose registry answers in the same way at any time, as long as its state satisfies
an invariant that no answer breaks. -/
abbrev SteadyRegistry {σ : Type} (h : Handler Call.Reply σ) (inv : σ → Prop) : Prop :=
  h.Steady (fun c => ∃ package, c = .published package) inv

namespace Resolve

variable {σ : Type} {h : Handler Call.Reply σ} {inv : σ → Prop} {s : σ}
  {w : Wanted} {ws : List Wanted} {p : Pin} {ps : List Pin}

/-! ### One peer -/

/-- To resolve several peers is to resolve each of them, one after another. -/
theorem peers_eq_inOrder (ws : List Wanted) : peers ws = inOrder (ws.map peer) := by
  induction ws with
  | nil => rfl
  | cons w ws ih =>
    show (peer w >>= fun p => peers ws >>= fun ps => pure (p :: ps)) = _
    rw [ih]
    rfl

/-- Each of the peers only asks what a package has published. -/
theorem asks_peer (ws : List Wanted) :
    ∀ d ∈ ws.map peer, d.Asks fun c => ∃ package, c = .published package := by
  intro d hd
  obtain ⟨w, -, rfl⟩ := List.mem_map.mp hd
  refine Asks.bind (Asks.mapFault _ ?_) fun _ => .done _
  exact (asks_highest w.package w.query).mono fun _ hc => ⟨w.package, hc⟩

/-- The pin is for the package, at the version that the search for it finds. -/
def Finds (h : Handler Call.Reply σ) (s : σ) (w : Wanted) (p : Pin) : Prop :=
  p.package = w.package ∧ searched h s w.package w.query = .ok p.version

/-- A search finds one pin at most. -/
theorem Finds.eq {p' : Pin} (hp : Finds h s w p) (hp' : Finds h s w p') : p = p' := by
  obtain ⟨package, version⟩ := p
  obtain ⟨package', version'⟩ := p'
  obtain ⟨rfl, hv⟩ := hp
  obtain ⟨rfl, hv'⟩ := hp'
  rw [hv] at hv'
  cases hv'
  rfl

/-- What comes of one peer is the pin at the version that its search finds, or the fault of the
search with its package. -/
theorem alone_peer (h : Handler Call.Reply σ) (s : σ) (w : Wanted) :
    alone h s (peer w) =
      ((searched h s w.package w.query).mapError (.peer w.package)).map (⟨w.package, ·⟩) := by
  rw [alone, peer, run_bind, run_mapFault, searched]
  cases ((highest w.package w.query).run h s).1 with
  | ok v => rfl
  | error cause => rfl

/-- A pin comes of one peer exactly if the search for it finds the pin. -/
theorem alone_peer_eq_ok : alone h s (peer w) = .ok p ↔ Finds h s w p := by
  rw [alone_peer, Finds]
  obtain ⟨package, version⟩ := p
  cases searched h s w.package w.query with
  | ok v =>
    show Except.ok (Pin.mk w.package v) = .ok ⟨package, version⟩ ↔ _
    simp [eq_comm]
  | error cause =>
    show Except.error (Fault.peer w.package cause) = .ok _ ↔ _
    simp

/-- A fault comes of one peer exactly if it is that of its search. -/
theorem alone_peer_eq_error {fault : Fault} :
    alone h s (peer w) = .error fault ↔
      ∃ cause, searched h s w.package w.query = .error cause ∧ fault = .peer w.package cause := by
  rw [alone_peer]
  cases searched h s w.package w.query with
  | ok v =>
    show Except.ok (Pin.mk w.package v) = .error fault ↔ _
    simp
  | error cause =>
    show Except.error (Fault.peer w.package cause) = .error fault ↔ _
    simp [eq_comm]

/-- Where every search finds the pin in its place, each of them finds one. -/
theorem exists_finds (hps : List.Forall₂ (Finds h s) ws ps) (hw : w ∈ ws) :
    ∃ p ∈ ps, Finds h s w p := by
  induction hps with
  | nil => cases hw
  | cons hp _ ih =>
    rcases List.mem_cons.mp hw with rfl | hw
    · exact ⟨_, List.mem_cons_self, hp⟩
    · obtain ⟨p, hmem, hp⟩ := ih hw
      exact ⟨p, List.mem_cons_of_mem _ hmem, hp⟩

/-! ### Peers at the same time -/

/-- What may come of wanted packages whose searches are made at the same time. -/
def AtOnce (h : Handler Call.Reply σ) (ws : List Wanted) (s : σ) (r : Except Fault (List Pin)) :
    Prop :=
  Together h (ws.map peer) s r

section

variable (hsteady : SteadyRegistry h inv) (hs : inv s)
include hsteady hs

/-- What may come of the searches at the same time is what may come of their results. -/
theorem atOnce_iff {r : Except Fault (List Pin)} :
    AtOnce h ws s r ↔ Joined (ws.map fun w => alone h s (peer w)) r := by
  rw [AtOnce, together_iff hsteady (asks_peer ws) hs, List.map_map]
  rfl

/-- Pins come of it exactly when every search finds the one in its place. -/
theorem atOnce_ok_iff : AtOnce h ws s (.ok ps) ↔ List.Forall₂ (Finds h s) ws ps := by
  rw [atOnce_iff hsteady hs, joined_ok_iff, ← List.forall₂_eq_eq_eq, List.forall₂_map_left_iff,
    List.forall₂_map_right_iff]
  simp only [alone_peer_eq_ok]

/-- A fault comes of it exactly when it is that of a search. -/
theorem atOnce_error_iff {fault : Fault} :
    AtOnce h ws s (.error fault) ↔
      ∃ w ∈ ws, ∃ cause, searched h s w.package w.query = .error cause ∧
        fault = .peer w.package cause := by
  rw [atOnce_iff hsteady hs, joined_error_iff, List.mem_map]
  simp only [alone_peer_eq_error]

/-- Where every search finds a pin, nothing else comes of it. -/
theorem atOnce_iff_eq_ok (hps : List.Forall₂ (Finds h s) ws ps) (r : Except Fault (List Pin)) :
    AtOnce h ws s r ↔ r = .ok ps := by
  constructor
  · intro hr
    cases r with
    | ok ps' =>
      have hps' := (atOnce_ok_iff hsteady hs).mp hr
      have hunique : Relator.RightUnique (Finds h s) := fun _ _ _ => Finds.eq
      rw [List.right_unique_forall₂' hunique hps' hps]
    | error fault =>
      obtain ⟨w, hw, cause, hcause, -⟩ := (atOnce_error_iff hsteady hs).mp hr
      obtain ⟨p, -, -, hp⟩ := exists_finds hps hw
      rw [hcause] at hp
      cases hp
  · rintro rfl
    exact (atOnce_ok_iff hsteady hs).mpr hps

end

/-- What may come of peers that are resolved at the same time:

- `ends`, `moves`, `joins`: no schedule goes on for ever, none gets stuck, and something comes of
  every one that is over;
- `ok_iff`, `error_iff`: pins come of it in the order of the wanted packages, each of them the one
  that the search for its package finds, or the fault of a search, with its package;
- `decided`: under every schedule pins come of it exactly when every search finds one;
- `permuted`: the wanted packages in another order have the pins in that order, under every
  schedule;
- `sequential`: what comes of the peers one after another may come of it. -/
structure PeersAtOnce (h : Handler Call.Reply σ) (ws : List Wanted) (s : σ) : Prop where
  ends : Acc (fun q' q : Pool Call.Reply Pin σ => q.Step h q') (.start (ws.map peer) s)
  moves : ∀ q, Pool.Runs h (.start (ws.map peer) s) q → ¬ q.IsOver →
    ∃ q', q.Step h q'
  joins : ∀ q, Pool.Runs h (.start (ws.map peer) s) q → q.IsOver →
    ∃ r, Joined q.results r
  ok_iff : ∀ ps, AtOnce h ws s (.ok ps) ↔ List.Forall₂ (Finds h s) ws ps
  error_iff : ∀ fault, AtOnce h ws s (.error fault) ↔
    ∃ w ∈ ws, ∃ cause, searched h s w.package w.query = .error cause ∧
      fault = .peer w.package cause
  decided : ∀ r, AtOnce h ws s r →
    ((∃ ps, r = .ok ps) ↔ ∀ w ∈ ws, ∃ v, searched h s w.package w.query = .ok v)
  permuted : ∀ (π : Equiv.Perm (Fin ws.length)) (ps : List Pin), AtOnce h ws s (.ok ps) →
    ∃ ps' : List Pin, (∀ r, AtOnce h (List.ofFn fun i => ws[π i]) s r ↔ r = .ok ps') ∧
      ps'.length = ws.length ∧ ∀ i : Fin ws.length, ps'[i.val]? = ps[(π i).val]?
  sequential : AtOnce h ws s ((peers ws).run h s).1

/-- Against a registry that answers in the same way at any time, peers may be resolved at the
same time. -/
theorem peersAtOnce (hsteady : SteadyRegistry h inv) (hs : inv s) (ws : List Wanted) :
    PeersAtOnce h ws s where
  ends := (wellFounded_step h).apply _
  moves q _ hover := exists_step hover
  joins q _ _ := exists_joined q.results
  ok_iff ps := atOnce_ok_iff hsteady hs
  error_iff fault := atOnce_error_iff hsteady hs
  decided r hr := by
    constructor
    · rintro ⟨ps, rfl⟩ w hw
      obtain ⟨p, -, -, hp⟩ := exists_finds ((atOnce_ok_iff hsteady hs).mp hr) hw
      exact ⟨p.version, hp⟩
    · intro hall
      cases r with
      | ok ps => exact ⟨ps, rfl⟩
      | error fault =>
        obtain ⟨w, hw, cause, hcause, -⟩ := (atOnce_error_iff hsteady hs).mp hr
        obtain ⟨v, hv⟩ := hall w hw
        rw [hcause] at hv
        cases hv
  permuted π ps hok := by
    obtain ⟨hlength, hfinds⟩ := List.forall₂_iff_get.mp ((atOnce_ok_iff hsteady hs).mp hok)
    refine ⟨List.ofFn fun i => ps[(π i).val], atOnce_iff_eq_ok hsteady hs ?_, List.length_ofFn, ?_⟩
    · -- What stands at a place of the new order stands at one place of the old, pin and package.
      rw [List.forall₂_iff_get]
      refine ⟨by rw [List.length_ofFn, List.length_ofFn], ?_⟩
      intro i hi _
      rw [List.length_ofFn] at hi
      simpa using hfinds _ (π ⟨i, hi⟩).isLt (hlength ▸ (π ⟨i, hi⟩).isLt)
    · intro i
      simp
  sequential := by
    rw [peers_eq_inOrder]
    exact together_inOrder h (ws.map peer) s

/-- The registry of a rehearsal stays as it is, and only the record of its calls grows. -/
theorem steady_rehearsal (registry : MemoryRegistry) :
    SteadyRegistry Rehearsal.handler fun r => r.registry = registry where
  answer := by
    rintro _ ⟨package, rfl⟩ r r' hr hr'
    show r.registry.published package = r'.registry.published package
    rw [hr, hr']
  after := by
    rintro _ ⟨package, rfl⟩ r hr
    exact hr
  shown _ _ hr := hr

/-- A registry in memory that knows three packages and fails for another. -/
def patchyRegistry : MemoryRegistry :=
  let tagged := MemoryRegistry.withTag {} "react" "latest" "19.0.0"
  let ranged := tagged.withVersions "scheduler" ["0.25.0", "0.26.0"]
  (ranged.withVersions "router" ["1.1.0", "2.0.0"]).withFailing "next"

/-- A project that asks this registry. -/
def patchyProject : Rehearsal where
  registry := patchyRegistry
  installed := []
  manifest := ⟨[]⟩

/-- Packages that this registry knows, and the pins that the searches for them find. -/
def knownPins : List (Wanted × Pin) :=
  [(⟨"react", "latest"⟩, ⟨"react", { major := 19, minor := 0, patch := 0 }⟩),
    (⟨"scheduler", "<0.26.0"⟩, ⟨"scheduler", { major := 0, minor := 25, patch := 0 }⟩),
    (⟨"router", ">=1.0.0"⟩, ⟨"router", { major := 2, minor := 0, patch := 0 }⟩)]

/-- Each of the three searches finds its pin. -/
theorem finds_knownPins :
    List.Forall₂ (Finds Rehearsal.handler patchyProject) (knownPins.map Prod.fst)
      (knownPins.map Prod.snd) := by
  refine .cons ⟨rfl, ?_⟩ (.cons ⟨rfl, ?_⟩ (.cons ⟨rfl, ?_⟩ .nil)) <;> with_unfolding_all rfl

/-- In reverse, the known packages have the pins in reverse. -/
theorem atOnce_reverse_known
    (h : PeersAtOnce Rehearsal.handler (knownPins.map Prod.fst) patchyProject)
    (hpins : AtOnce Rehearsal.handler (knownPins.map Prod.fst) patchyProject
      (.ok (knownPins.map Prod.snd))) (r : Except Fault (List Pin)) :
    AtOnce Rehearsal.handler (knownPins.map Prod.fst).reverse patchyProject r ↔
      r = .ok (knownPins.map Prod.snd).reverse := by
  obtain ⟨ps', honly, hlength, hplaces⟩ := h.permuted (Fin.revPerm (n := 3)) _ hpins
  obtain ⟨a, b, c, rfl⟩ := List.length_eq_three.mp hlength
  have hfirst : some a = _ := hplaces (0 : Fin 3)
  have hsecond : some b = _ := hplaces (1 : Fin 3)
  have hthird : some c = _ := hplaces (2 : Fin 3)
  obtain rfl := Option.some.inj hfirst
  obtain rfl := Option.some.inj hsecond
  obtain rfl := Option.some.inj hthird
  exact honly r

/-- Nothing comes of the known packages but their pins, and in reverse their pins in reverse. Where
two of three searches fail, the schedule decides which of the two faults comes of it, and no pins
come of it under any. -/
theorem peersAtOnce_patchy :
    let known := knownPins.map Prod.fst
    let patchy : List Wanted := [⟨"lost", "latest"⟩, ⟨"react", "latest"⟩, ⟨"next", "latest"⟩]
    (∀ r, AtOnce Rehearsal.handler known patchyProject r ↔ r = .ok (knownPins.map Prod.snd)) ∧
      (∀ r, AtOnce Rehearsal.handler known.reverse patchyProject r ↔
        r = .ok (knownPins.map Prod.snd).reverse) ∧
      AtOnce Rehearsal.handler patchy patchyProject
        (.error (.peer "lost" (.noMatch "lost" "latest"))) ∧
      AtOnce Rehearsal.handler patchy patchyProject
        (.error (.peer "next" (.registry (.reported "HTTP 500: next")))) ∧
      ¬ ∃ ps, AtOnce Rehearsal.handler patchy patchyProject (.ok ps) := by
  intro known patchy
  have hsteady := steady_rehearsal patchyRegistry
  have hknown : PeersAtOnce Rehearsal.handler known patchyProject :=
    peersAtOnce hsteady rfl known
  have hpatchy : PeersAtOnce Rehearsal.handler patchy patchyProject :=
    peersAtOnce hsteady rfl patchy
  have hpins := (hknown.ok_iff _).mpr finds_knownPins
  have hlost : searched Rehearsal.handler patchyProject "lost" "latest" =
      .error (.noMatch "lost" "latest") := rfl
  have hnext : searched Rehearsal.handler patchyProject "next" "latest" =
      .error (.registry (.reported "HTTP 500: next")) := rfl
  refine ⟨atOnce_iff_eq_ok hsteady rfl finds_knownPins, atOnce_reverse_known hknown hpins, ?_, ?_,
    ?_⟩
  · exact (hpatchy.error_iff _).mpr ⟨⟨"lost", "latest"⟩, by decide, _, hlost, rfl⟩
  · exact (hpatchy.error_iff _).mpr ⟨⟨"next", "latest"⟩, by decide, _, hnext, rfl⟩
  · rintro ⟨ps, hps⟩
    obtain ⟨v, hv⟩ := (hpatchy.decided _ hps).mp ⟨ps, rfl⟩ ⟨"lost", "latest"⟩ (by decide)
    rw [hlost] at hv
    cases hv

end Resolve

end FrameworkUpgrade
