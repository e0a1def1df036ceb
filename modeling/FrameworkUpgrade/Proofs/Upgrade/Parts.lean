import FrameworkUpgrade.Proofs.Upgrade.Target

/-!
# `FrameworkUpgrade.Proofs.Upgrade.Parts`: the parts of an upgrade

`Upgrade.run` is a dialogue of several parts, and each part makes calls of its own kind.
The lemmas named `asks_…` say which calls a part makes. The parts that come after the
manifest is written are `Unfailing`: they end with a value whatever is answered.

`Completion` takes a completed upgrade apart. It names the exchanges of every part, what
each part ends with, and how the report is made of that. `Outline` has a case for every
way in which an upgrade ends, and `outline_of_course` states that there are no others.
Everything that is proved about whole upgrades starts from it.
-/

set_option autoImplicit false

namespace FrameworkUpgrade

open Dialogue

/-- The part of an upgrade that a call belongs to. An enquiry leaves the project as it is. -/
inductive Stage where
  | enquiry
  | writing
  | installation
  | codemods
  | recipes
deriving DecidableEq, Repr

/-- The stage of a call. -/
def Call.stage : Call → Stage
  | .release _ _ | .published _ | .installed _ | .readManifest | .select _ _ | .confirm _ _ =>
    .enquiry
  | .writeManifest _ => .writing
  | .install _ _ _ => .installation
  | .transform _ _ _ _ => .codemods
  | .recipe _ _ => .recipes

/-- The manifest that an exchange reads. -/
def Exchange.read? : Exchange Call.Reply → Option Manifest
  | ⟨.readManifest, .ok m⟩ => some m
  | _ => none

/-- The release that an exchange answers with. -/
def Exchange.released? : Exchange Call.Reply → Option Release
  | ⟨.release _ _, .ok (some r)⟩ => some r
  | _ => none

/-- The manifest that an exchange writes. -/
def Exchange.written? : Exchange Call.Reply → Option Manifest
  | ⟨.writeManifest m, .ok ()⟩ => some m
  | _ => none

/-- Exchanges of one stage show nothing of what only another stage shows. -/
theorem filterMap_eq_nil_of_stage {β : Type} {stage shown : Stage}
    {f : Exchange Call.Reply → Option β} (hf : ∀ e, e.call.stage ≠ shown → f e = none)
    {es : List (Exchange Call.Reply)} (h : ∀ e ∈ es, e.call.stage = stage)
    (hne : stage ≠ shown) : es.filterMap f = [] := by
  rw [List.filterMap_eq_nil_iff]
  intro e he
  apply hf
  rwa [h e he]

/-- What the first exchange shows stands before what the others show. -/
theorem filterMap_cons_append {α β : Type} (f : α → Option β) (a : α) (as : List α) :
    (a :: as).filterMap f = (f a).toList ++ as.filterMap f := by
  rw [List.filterMap_cons]
  cases f a with
  | none => rfl
  | some b => rfl

/-- Only an enquiry reads a manifest. -/
theorem Exchange.read?_eq_none {e : Exchange Call.Reply} (h : e.call.stage ≠ .enquiry) :
    e.read? = none := by
  obtain ⟨c, reply⟩ := e
  cases c with
  | readManifest => exact absurd rfl h
  | _ => rfl

/-- Only an enquiry has a release for its answer. -/
theorem Exchange.released?_eq_none {e : Exchange Call.Reply} (h : e.call.stage ≠ .enquiry) :
    e.released? = none := by
  obtain ⟨c, reply⟩ := e
  cases c with
  | release => exact absurd rfl h
  | _ => rfl

/-- Only the writing writes a manifest. -/
theorem Exchange.written?_eq_none {e : Exchange Call.Reply} (h : e.call.stage ≠ .writing) :
    e.written? = none := by
  obtain ⟨c, reply⟩ := e
  cases c with
  | writeManifest m => exact absurd rfl h
  | _ => rfl

/-! ### Resolving -/

namespace Resolve

/-- A search asks what the package has published, and nothing else. -/
theorem asks_highest (package query : String) :
    (highest package query).Asks (· = .published package) := by
  unfold highest
  split
  · exact .fail _
  · exact Asks.bind (asks_call rfl) fun _ => asks_demand _ _

/-- A version and a tag name the document, and only a range has to look for it. -/
theorem asks_releaseKey (package token : String) (q : Query) :
    (releaseKey package token q).Asks (· = .published package) := by
  unfold releaseKey
  split
  · exact .done _
  · exact .done _
  · exact Asks.bind (Asks.mapFault _ (asks_highest package token)) fun _ => .done _

/-- To resolve a target asks what the package has published, or for one of its releases. -/
theorem asks_target (package token : String) :
    (target package token).Asks fun c =>
      c = .published package ∨ ∃ key, c = .release package key := by
  unfold target
  split
  · exact .fail _
  · refine Asks.bind ?_ fun key =>
      Asks.bind (asks_call (.inr ⟨key, rfl⟩)) fun _ => asks_demand _ _
    exact (asks_releaseKey package token _).mono fun _ hc => .inl hc

/-- A target that is resolved is read from the document of a release, which is the last
thing asked for and the only document. -/
theorem course_target_ok {package token : String} {es : List (Exchange Call.Reply)} {t : Target}
    (h : (target package token).Course es (.ok t)) :
    ∃ front key release, es = front ++ [⟨.release package key, .ok (some release)⟩] ∧
      release.target? = .ok t ∧ ∀ e ∈ front, e.call = .published package := by
  unfold target at h
  split at h
  · obtain ⟨_, ⟨⟩⟩ := (course_fail _ _ _).mp h
  · obtain ⟨key, front, back, rfl, hkey, h₁⟩ := (course_bind_ok _ _ _ _).mp h
    obtain ⟨reply, rest, rfl, h₂⟩ := (course_call_bind _ _ _ _).mp h₁
    obtain ⟨rfl, htarget⟩ := (course_demand _ _ _).mp h₂
    have hfront := (asks_releaseKey package token _).of_course hkey
    -- Only a document that is there and can be read gives a target.
    obtain ⟨release, rfl, hdescribes⟩ := targetOf_eq_ok_iff.mp htarget.symm
    exact ⟨front, key, release, rfl, Release.target?_eq_ok_iff.mpr hdescribes, hfront⟩

/-- To resolve peers asks what each of them has published. -/
theorem asks_peers (ws : List Wanted) :
    (peers ws).Asks fun c => ∃ w ∈ ws, c = .published w.package := by
  induction ws with
  | nil => exact .done _
  | cons w ws ih =>
    have hpeer : (peer w).Asks fun c => ∃ w' ∈ w :: ws, c = .published w'.package := by
      refine Asks.bind (Asks.mapFault _ ?_) fun _ => .done _
      exact (asks_highest w.package w.query).mono fun _ hc => ⟨w, List.mem_cons_self, hc⟩
    refine Asks.bind hpeer fun _ => Asks.bind (ih.mono ?_) fun _ => .done _
    rintro _ ⟨w', hw', rfl⟩
    exact ⟨w', List.mem_cons_of_mem _ hw', rfl⟩

end Resolve

/-! ### Questions to the user -/

/-- The choice of codemods is one question, with the codemods for its answers. -/
theorem Plan.asks_chosen (prompts : Bool) (codemods : List Codemod) :
    (chosen prompts codemods).Asks (· = .select question (codemods.map choice)) := by
  unfold chosen
  split
  · exact Asks.bind (asks_call rfl) fun _ => Asks.bind (asks_demand _ _) fun _ => .done _
  · exact .done _

/-- The user is asked once when there is something to choose from, and not otherwise. -/
theorem Plan.course_chosen_ok {prompts : Bool} {codemods chosen : List Codemod}
    {es : List (Exchange Call.Reply)}
    (h : (Plan.chosen prompts codemods).Course es (.ok chosen)) :
    if prompts && !codemods.isEmpty then
      ∃ answer, es = [⟨.select question (codemods.map choice), .ok answer⟩] ∧
        chosen = atPositions codemods answer
    else es = [] ∧ chosen = codemods := by
  unfold Plan.chosen at h
  split at h
  · rename_i hasked
    rw [if_pos hasked]
    obtain ⟨reply, rest, rfl, h₁⟩ := (course_call_bind _ _ _ _).mp h
    rcases (course_demand_bind _ _ _ _).mp h₁ with ⟨answer, rfl, h₂⟩ | ⟨_, _, _, ⟨⟩⟩
    obtain ⟨rfl, ⟨⟩⟩ := (course_pure _ _ _).mp h₂
    exact ⟨answer, rfl, rfl⟩
  · rename_i hasked
    rw [if_neg hasked]
    obtain ⟨rfl, ⟨⟩⟩ := (course_pure _ _ _).mp h
    exact ⟨rfl, rfl⟩

namespace FollowUp

/-- A question of yes or no is itself. -/
theorem asks_confirmed (question : String) :
    (confirmed question).Asks (· = .confirm question true) :=
  Asks.bind (asks_call rfl) fun _ => asks_demand _ _

/-- The recipes are agreed on by questions of yes or no. -/
theorem asks_agreedRecipes (rs : List Recipe) :
    (agreedRecipes rs).Asks fun c => ∃ question, c = .confirm question true := by
  induction rs with
  | nil => exact .done _
  | cons r rs ih =>
    exact Asks.bind ((asks_confirmed _).mono fun _ hc => ⟨_, hc⟩) fun _ =>
      Asks.bind ih fun _ => .done _

/-- What is asked after the question for Turbopack. -/
def recipesWanted (turbopack : Bool) (pins : List Pin) (m : Manifest) : Script FollowUps := do
  let installed ← Script.call (.installed reactPackage)
  let recipes ← agreedRecipes (offeredRecipes (installed.toOption.map Version.major) pins m)
  return { turbopack, recipes }

/-- What follows the question for Turbopack is the same whether it was asked or not. -/
theorem wanted_eq (target : Target) (pins : List Pin) (m : Manifest) :
    wanted true target pins m =
      if offersTurbopack target m then
        confirmed turbopackQuestion >>= fun turbopack => recipesWanted turbopack pins m
      else recipesWanted false pins m := by
  rfl

/-- The follow-up work is settled by such questions and by the installed version of React. -/
theorem asks_wanted (prompts : Bool) (target : Target) (pins : List Pin) (m : Manifest) :
    (wanted prompts target pins m).Asks fun c =>
      c = .installed reactPackage ∨ ∃ question, c = .confirm question true := by
  have hrecipes (turbopack : Bool) : (recipesWanted turbopack pins m).Asks fun c =>
      c = .installed reactPackage ∨ ∃ question, c = .confirm question true :=
    Asks.bind (asks_call (.inl rfl)) fun _ =>
      Asks.bind ((asks_agreedRecipes _).mono fun _ => .inr) fun _ => .done _
  cases prompts with
  | false => exact .done _
  | true =>
    rw [wanted_eq]
    split
    · exact Asks.bind ((asks_confirmed _).mono fun _ hc => .inr ⟨_, hc⟩) hrecipes
    · exact hrecipes false

end FollowUp

namespace Upgrade

/-! ### After the manifest is written -/

/-- To install groups makes a call for each of them. -/
theorem asks_installGroups (silent : Bool) (groups : List (List String × Bool)) :
    (installGroups silent groups).Asks fun c =>
      ∃ group ∈ groups, c = .install group.1 group.2 silent := by
  induction groups with
  | nil => exact .done _
  | cons group groups ih =>
    have hlater : (installGroups silent groups).Asks fun c =>
        ∃ group' ∈ group :: groups, c = .install group'.1 group'.2 silent := by
      refine ih.mono ?_
      rintro _ ⟨group', hgroup', rfl⟩
      exact ⟨group', List.mem_cons_of_mem _ hgroup', rfl⟩
    unfold installGroups
    -- An empty group makes no call.
    split
    · exact hlater
    · refine Asks.bind (asks_call ⟨group, List.mem_cons_self, rfl⟩) fun reply =>
        Asks.bind hlater fun others => ?_
      cases reply with
      | ok _ => exact .done _
      | error _ => exact .done _

/-- To install groups cannot fail: a failure is noted and the next group follows. -/
theorem unfailing_installGroups (silent : Bool) (groups : List (List String × Bool)) :
    (installGroups silent groups).Unfailing := by
  induction groups with
  | nil => exact .done _
  | cons group groups ih =>
    unfold installGroups
    split
    · exact ih
    · refine Unfailing.bind (unfailing_call _) fun reply => Unfailing.bind ih fun others => ?_
      -- A fault becomes a reason in the list.
      cases reply with
      | ok _ => exact .done _
      | error _ => exact .done _

/-- An installation makes calls for its two groups. -/
theorem asks_install (x : Context) (m : Manifest) (pins : List Pin) :
    (install x m pins).Asks fun c =>
      ∃ dev, c = .install (installGroup m pins dev) dev (!x.verbose) := by
  refine Asks.bind ((asks_installGroups _ _).mono ?_) fun _ => .done _
  rintro _ ⟨group, hgroup, rfl⟩
  simp only [List.mem_cons, List.not_mem_nil, or_false] at hgroup
  rcases hgroup with rfl | rfl
  · exact ⟨false, rfl⟩
  · exact ⟨true, rfl⟩

/-- An installation cannot fail. -/
theorem unfailing_install (x : Context) (m : Manifest) (pins : List Pin) :
    (install x m pins).Unfailing :=
  Unfailing.bind (unfailing_installGroups _ _) fun _ => .done _

/-- Showing how the installation went makes no call and does not fail. -/
theorem course_showInstall_bind {α : Type} (install : StepResult) (f : Unit → Script α)
    (es : List (Exchange Call.Reply)) (r : Except Fault α) :
    (showInstall install >>= f).Course es r ↔ (f ()).Course es r := by
  cases install with
  | succeeded => exact course_line_bind _ f es r
  | failed reason =>
    exact (course_line_bind _ (fun _ => line _ >>= f) es r).trans (course_line_bind _ f es r)

/-- The line on how a step went. -/
def outcomeLine : StepResult → String
  | .succeeded => "     ✓ applied"
  | .failed reason => s!"     ✗ {reason}"

/-- To apply a step shows its name, makes its call, shows the outcome and notes it. -/
theorem apply_eq (id : String) (call : Script (Except Fault Unit)) :
    apply id call = do
      line s!"   → {id}"
      let reply ← call
      line (outcomeLine (.ofReply reply))
      return ⟨id, .ofReply reply⟩ := by
  unfold apply
  congr 2
  funext _
  congr 1
  funext reply
  -- The two lines differ, and what comes after them does not.
  cases reply with
  | ok _ => rfl
  | error _ => rfl

/-- A codemod or a recipe is a step: the exchange of its one call, and an entry that holds
the reply. -/
theorem course_apply (id : String) {call : Script (Except Fault Unit)}
    {exchange : Except Fault Unit → Exchange Call.Reply}
    (hcall : ∀ es r, call.Course es r ↔ ∃ reply, es = [exchange reply] ∧ r = .ok reply)
    (es : List (Exchange Call.Reply)) (r : Except Fault Applied) :
    (apply id call).Course es r ↔
      ∃ reply, es = [exchange reply] ∧ r = .ok ⟨id, .ofReply reply⟩ := by
  rw [apply_eq, course_line_bind, course_bind]
  constructor
  · rintro (⟨reply, front, back, rfl, hfront, hback⟩ | ⟨fault, rfl, h⟩)
    · obtain ⟨_, rfl, ⟨⟩⟩ := (hcall _ _).mp hfront
      rw [course_line_bind, course_pure] at hback
      obtain ⟨rfl, rfl⟩ := hback
      exact ⟨reply, rfl, rfl⟩
    · obtain ⟨_, _, ⟨⟩⟩ := (hcall _ _).mp h
  · rintro ⟨reply, rfl, rfl⟩
    refine .inl ⟨reply, _, [], rfl, (hcall _ _).mpr ⟨reply, rfl, rfl⟩, ?_⟩
    rw [course_line_bind, course_pure]
    exact ⟨rfl, rfl⟩

/-- Steps, one after another. Codemods and recipes are applied in this way. -/
def applyEach {ι : Type} (id : ι → String) (call : ι → Script (Except Fault Unit)) :
    List ι → Script (List Applied)
  | [] => .done []
  | i :: is => do
    let a ← apply (id i) (call i)
    let others ← applyEach id call is
    return a :: others

/-- To apply steps makes the calls of each of them. -/
theorem asks_applyEach {ι : Type} {p : Call → Prop} {id : ι → String}
    {call : ι → Script (Except Fault Unit)} {is : List ι} (hcall : ∀ i ∈ is, (call i).Asks p) :
    (applyEach id call is).Asks p := by
  induction is with
  | nil => exact .done _
  | cons i is ih =>
    have hfirst : (apply (id i) (call i)).Asks p := by
      rw [apply_eq]
      exact Asks.bind (asks_line _ _) fun _ => Asks.bind (hcall i List.mem_cons_self) fun _ =>
        Asks.bind (asks_line _ _) fun _ => .done _
    exact Asks.bind hfirst fun _ =>
      Asks.bind (ih fun j hj => hcall j (List.mem_cons_of_mem _ hj)) fun _ => .done _

/-- Every step is taken, in order, whatever the replies are. -/
theorem course_applyEach {ι : Type} {id : ι → String} {call : ι → Script (Except Fault Unit)}
    {exchange : ι → Except Fault Unit → Exchange Call.Reply}
    (hcall : ∀ i es r, (call i).Course es r ↔ ∃ reply, es = [exchange i reply] ∧ r = .ok reply)
    {is : List ι} {es : List (Exchange Call.Reply)} {r : Except Fault (List Applied)}
    (h : (applyEach id call is).Course es r) :
    ∃ steps : List (ι × Except Fault Unit), steps.map Prod.fst = is ∧
      es = steps.map (fun s => exchange s.1 s.2) ∧
      r = .ok (steps.map fun s => ⟨id s.1, .ofReply s.2⟩) := by
  induction is generalizing es r with
  | nil =>
    obtain ⟨rfl, rfl⟩ := (course_done _ _ _).mp h
    exact ⟨[], rfl, rfl, rfl⟩
  | cons i is ih =>
    -- Neither the first step nor those after it fail, so only the case of values is left.
    rcases (course_bind _ _ _ _).mp h with ⟨a, front, back, rfl, hfront, hback⟩ | ⟨_, rfl, hi⟩
    · obtain ⟨reply, rfl, ⟨⟩⟩ := (course_apply _ (hcall i) _ _).mp hfront
      rcases (course_bind _ _ _ _).mp hback with ⟨as, front, back, rfl, his, hend⟩ | ⟨_, rfl, his⟩
      · obtain ⟨steps, rfl, rfl, ⟨⟩⟩ := ih his
        obtain ⟨rfl, rfl⟩ := (course_pure _ _ _).mp hend
        exact ⟨(i, reply) :: steps, rfl, by simp, rfl⟩
      · obtain ⟨_, _, _, ⟨⟩⟩ := ih his
    · obtain ⟨_, _, ⟨⟩⟩ := (course_apply _ (hcall i) _ _).mp hi

/-- The call of a codemod. -/
def codemodCall (x : Context) (c : Codemod) : Script (Except Fault Unit) :=
  Script.call (.transform c.id x.directory true x.verbose)

/-- The exchange of a codemod. -/
def codemodExchange (x : Context) (c : Codemod) (reply : Except Fault Unit) :
    Exchange Call.Reply :=
  ⟨.transform c.id x.directory true x.verbose, reply⟩

/-- The call of a codemod is one exchange. -/
theorem course_codemodCall (x : Context) (c : Codemod) (es : List (Exchange Call.Reply))
    (r : Except Fault (Except Fault Unit)) :
    (codemodCall x c).Course es r ↔ ∃ reply, es = [codemodExchange x c reply] ∧ r = .ok reply :=
  course_call (Call.transform c.id x.directory true x.verbose) es r

/-- Codemods are applied as steps are. -/
theorem applyCodemods_eq_applyEach (x : Context) (cs : List Codemod) :
    applyCodemods x cs = applyEach Codemod.id (codemodCall x) cs := by
  induction cs with
  | nil => rfl
  | cons c cs ih =>
    rw [applyCodemods, ih]
    rfl

/-- Every codemod is applied once, in order, and its reply is noted under its identifier. -/
theorem course_applyCodemods {x : Context} {cs : List Codemod}
    {es : List (Exchange Call.Reply)} {r : Except Fault (List Applied)}
    (h : (applyCodemods x cs).Course es r) :
    ∃ steps : List (Codemod × Except Fault Unit), steps.map Prod.fst = cs ∧
      es = steps.map (fun s => codemodExchange x s.1 s.2) ∧
      r = .ok (steps.map fun s => ⟨s.1.id, .ofReply s.2⟩) := by
  rw [applyCodemods_eq_applyEach] at h
  exact course_applyEach (course_codemodCall x) h

/-- The call of a recipe. -/
def recipeCall (x : Context) (r : Recipe) : Script (Except Fault Unit) :=
  Script.call (.recipe r x.directory)

/-- The exchange of a recipe. -/
def recipeExchange (x : Context) (r : Recipe) (reply : Except Fault Unit) :
    Exchange Call.Reply :=
  ⟨.recipe r x.directory, reply⟩

/-- The call of a recipe is one exchange. -/
theorem course_recipeCall (x : Context) (recipe : Recipe) (es : List (Exchange Call.Reply))
    (r : Except Fault (Except Fault Unit)) :
    (recipeCall x recipe).Course es r ↔
      ∃ reply, es = [recipeExchange x recipe reply] ∧ r = .ok reply :=
  course_call (Call.recipe recipe x.directory) es r

/-- Recipes are applied as steps are. -/
theorem applyRecipes_eq_applyEach (x : Context) (rs : List Recipe) :
    applyRecipes x rs = applyEach Recipe.name (recipeCall x) rs := by
  induction rs with
  | nil => rfl
  | cons r rs ih =>
    rw [applyRecipes, ih]
    rfl

/-- Every recipe is applied once, in order, and its reply is noted under its name. -/
theorem course_applyRecipes {x : Context} {rs : List Recipe}
    {es : List (Exchange Call.Reply)} {r : Except Fault (List Applied)}
    (h : (applyRecipes x rs).Course es r) :
    ∃ steps : List (Recipe × Except Fault Unit), steps.map Prod.fst = rs ∧
      es = steps.map (fun s => recipeExchange x s.1 s.2) ∧
      r = .ok (steps.map fun s => ⟨s.1.name, .ofReply s.2⟩) := by
  rw [applyRecipes_eq_applyEach] at h
  exact course_applyEach (course_recipeCall x) h

/-- The exchanges of the codemods belong to their stage. -/
theorem stage_of_applyCodemods {x : Context} {cs : List Codemod}
    {es : List (Exchange Call.Reply)} {r : Except Fault (List Applied)}
    (h : (applyCodemods x cs).Course es r) : ∀ e ∈ es, e.call.stage = .codemods := by
  obtain ⟨steps, _, rfl, _⟩ := course_applyCodemods h
  intro e he
  obtain ⟨s, _, rfl⟩ := List.mem_map.mp he
  rfl

/-- The exchanges of the recipes belong to their stage. -/
theorem stage_of_applyRecipes {x : Context} {rs : List Recipe}
    {es : List (Exchange Call.Reply)} {r : Except Fault (List Applied)}
    (h : (applyRecipes x rs).Course es r) : ∀ e ∈ es, e.call.stage = .recipes := by
  obtain ⟨steps, _, rfl, _⟩ := course_applyRecipes h
  intro e he
  obtain ⟨s, _, rfl⟩ := List.mem_map.mp he
  rfl

/-- The exchanges of an installation belong to its stage. -/
theorem stage_of_install {x : Context} {m : Manifest} {pins : List Pin}
    {es : List (Exchange Call.Reply)} {r : Except Fault StepResult}
    (h : (install x m pins).Course es r) : ∀ e ∈ es, e.call.stage = .installation := by
  intro e he
  obtain ⟨_, hc⟩ := (asks_install _ _ _).of_course h e he
  rw [hc]
  rfl

/-- The part behind the preparation writes the manifest, installs the packages and applies the
codemods and the recipes. -/
theorem asks_commit_of {q : Call → Prop} {x : Context} {p : Prepared}
    (hwrite : ∀ m, q (.writeManifest m))
    (hinstall : ∀ m dev, q (.install (installGroup m p.pins dev) dev (!x.verbose)))
    (htransform : ∀ c ∈ p.codemods, q (.transform c.id x.directory true x.verbose))
    (hrecipe : ∀ r, q (.recipe r x.directory)) : (commit x p).Asks q := by
  have hshow (result : StepResult) : (showInstall result).Asks q := by
    cases result with
    | succeeded => exact asks_line _ _
    | failed reason => exact Asks.bind (asks_line _ _) fun _ => asks_line _ _
  have hinstalling (m : Manifest) : (install x m p.pins).Asks q := by
    refine (asks_install x m p.pins).mono ?_
    rintro _ ⟨dev, rfl⟩
    exact hinstall m dev
  have htransforming : (applyCodemods x p.codemods).Asks q := by
    rw [applyCodemods_eq_applyEach]
    exact asks_applyEach fun c hc => asks_call (htransform c hc)
  have hrecipes : (applyRecipes x p.followUps.recipes).Asks q := by
    rw [applyRecipes_eq_applyEach]
    exact asks_applyEach fun r _ => asks_call (hrecipe r)
  -- In the order of `commit`: the manifest, the installation, the codemods, the recipes.
  refine Asks.bind (asks_line _ _) fun _ => Asks.bind (asks_call (hwrite _)) fun _ =>
    Asks.bind (asks_demand _ _) fun _ => ?_
  exact Asks.bind (asks_line _ _) fun _ => Asks.bind (asks_line _ _) fun _ =>
    Asks.bind (hinstalling _) fun _ => Asks.bind (hshow _) fun _ =>
    Asks.bind (asks_line _ _) fun _ => Asks.bind htransforming fun _ =>
    Asks.bind hrecipes fun _ => .done _

/-- What comes after the manifest is written always ends with a report. -/
theorem course_carryOut {x : Context} {p : Prepared} {m : Manifest} {pinned : List WrittenPin}
    {turbopack : Bool} {es : List (Exchange Call.Reply)} {r : Except Fault Report}
    (h : (carryOut x p m pinned turbopack).Course es r) :
    ∃ result codemods recipes installing transforming migrating,
      es = installing ++ (transforming ++ migrating) ∧
      (install x m p.pins).Course installing (.ok result) ∧
      (applyCodemods x p.codemods).Course transforming (.ok codemods) ∧
      (applyRecipes x p.followUps.recipes).Course migrating (.ok recipes) ∧
      r = .ok { installed := p.installed, target := p.target, pinned, turbopack,
                install := result, codemods, recipes } := by
  -- Each of the three parts ends with a value, which rules out the other case every time.
  unfold carryOut at h
  rw [course_line_bind, course_line_bind] at h
  rcases (course_bind _ _ _ _).mp h with
    ⟨result, installing, es₁, rfl, hinstall, h₁⟩ | ⟨_, rfl, hfail⟩
  · rw [course_showInstall_bind, course_line_bind] at h₁
    rcases (course_bind _ _ _ _).mp h₁ with
      ⟨codemods, transforming, es₂, rfl, hcodemods, h₂⟩ | ⟨_, rfl, hfail⟩
    · rcases (course_bind _ _ _ _).mp h₂ with
        ⟨recipes, migrating, es₃, rfl, hrecipes, h₃⟩ | ⟨_, rfl, hfail⟩
      · obtain ⟨rfl, rfl⟩ := (course_pure _ _ _).mp h₃
        rw [List.append_nil]
        exact ⟨result, codemods, recipes, installing, transforming, migrating, rfl, hinstall,
          hcodemods, hrecipes, rfl⟩
      · obtain ⟨_, _, _, ⟨⟩⟩ := course_applyRecipes hfail
    · obtain ⟨_, _, _, ⟨⟩⟩ := course_applyCodemods hfail
  · obtain ⟨_, ⟨⟩⟩ := (unfailing_install _ _ _).exists_ok hfail

/-- Three parts that follow one another are what comes after the manifest is written. -/
theorem course_carryOut_append {x : Context} {p : Prepared} {m : Manifest}
    {pinned : List WrittenPin} {turbopack : Bool} {result : StepResult}
    {codemods recipes : List Applied}
    {installing transforming migrating : List (Exchange Call.Reply)}
    (hinstall : (install x m p.pins).Course installing (.ok result))
    (hcodemods : (applyCodemods x p.codemods).Course transforming (.ok codemods))
    (hrecipes : (applyRecipes x p.followUps.recipes).Course migrating (.ok recipes)) :
    (carryOut x p m pinned turbopack).Course (installing ++ (transforming ++ migrating))
      (.ok { installed := p.installed, target := p.target, pinned, turbopack,
             install := result, codemods, recipes }) := by
  unfold carryOut
  rw [course_line_bind, course_line_bind]
  refine (course_bind_ok _ _ _ _).mpr ⟨result, installing, _, rfl, hinstall, ?_⟩
  rw [course_showInstall_bind, course_line_bind]
  refine (course_bind_ok _ _ _ _).mpr ⟨codemods, transforming, _, rfl, hcodemods, ?_⟩
  refine (course_bind_ok _ _ _ _).mpr
    ⟨recipes, migrating, [], (List.append_nil _).symm, hrecipes, ?_⟩
  rw [course_pure]
  exact ⟨rfl, rfl⟩

/-- The manifest is written first. When that fails nothing follows. -/
theorem course_commit {x : Context} {p : Prepared} {es : List (Exchange Call.Reply)}
    {r : Except Fault Report} (h : (commit x p).Course es r) :
    (∃ fault, es = [⟨.writeManifest (revised p).1, .error fault⟩] ∧ r = .error fault) ∨
    ∃ rest, es = ⟨.writeManifest (revised p).1, .ok ()⟩ :: rest ∧
      (carryOut x p (revised p).1 (revised p).2.1 (revised p).2.2).Course rest r := by
  unfold commit at h
  rw [course_line_bind] at h
  obtain ⟨reply, rest, rfl, h₁⟩ := (course_call_bind _ _ _ _).mp h
  rcases (course_demand_bind _ _ _ _).mp h₁ with ⟨_, rfl, h₂⟩ | ⟨fault, rfl, rfl, rfl⟩
  · exact .inr ⟨rest, rfl, h₂⟩
  · exact .inl ⟨fault, rfl, rfl⟩

/-- If the manifest is written, the rest of the upgrade follows. -/
theorem course_commit_written {x : Context} {p : Prepared} {es : List (Exchange Call.Reply)}
    {r : Except Fault Report}
    (h : (carryOut x p (revised p).1 (revised p).2.1 (revised p).2.2).Course es r) :
    (commit x p).Course (⟨.writeManifest (revised p).1, .ok ()⟩ :: es) r := by
  unfold commit
  rw [course_line_bind]
  refine (course_call_bind _ _ _ _).mpr ⟨.ok (), es, rfl, ?_⟩
  exact (course_demand_bind _ _ _ _).mpr (.inl ⟨(), rfl, h⟩)

/-- The pins that are reported are those that were to be made. -/
theorem pins_pinAll (m : Manifest) (ps : List Pin) :
    (pinAll m ps).2.map WrittenPin.pin = ps := by
  induction ps generalizing m with
  | nil => rfl
  | cons p ps ih =>
    show p :: (pinAll (m.pin p.package p.version.text) ps).2.map WrittenPin.pin = p :: ps
    rw [ih]

/-- The flag in the dev script has no bearing on what is reported of the pins. -/
theorem pinned_revised (p : Prepared) : (revised p).2.1 = (pinAll p.manifest p.pins).2 := by
  unfold revised
  cases p.followUps.turbopack with
  | true => rfl
  | false => rfl

/-! ### Before the manifest is written -/

/-- The exchanges of the part that prepares an upgrade to a newer target, and what they
come to. -/
structure Preparation (x : Context) (target : Target) (installed : Version)
    (applicable : List Codemod) (es : List (Exchange Call.Reply)) (p : Prepared) where
  peers : List Pin
  pinning : List (Exchange Call.Reply)
  choosing : List (Exchange Call.Reply)
  asking : List (Exchange Call.Reply)
  exchanges : es = ⟨.readManifest, .ok p.manifest⟩ :: (pinning ++ (choosing ++ asking))
  resolved : (Resolve.peers (wantedPeers target p.manifest)).Course pinning (.ok peers)
  chosen : (Plan.chosen x.prompts applicable).Course choosing (.ok p.codemods)
  asked : (FollowUp.wanted x.prompts target (withReactDom peers) p.manifest).Course asking
    (.ok p.followUps)
  installed_eq : p.installed = installed
  target_eq : p.target = target.version
  pins_eq : p.pins = ⟨frameworkPackage, target.version⟩ :: withReactDom peers

/-- To prepare an upgrade takes its parts in their order: manifest, peers, codemods, follow-up
work. -/
theorem preparation_of_course {x : Context} {target : Target} {installed : Version}
    {applicable : List Codemod} {es : List (Exchange Call.Reply)} {p : Prepared}
    (h : (prepareNewer x target installed applicable).Course es (.ok p)) :
    Nonempty (Preparation x target installed applicable es p) := by
  -- Every `h` below is a course of what is left of the preparation.
  unfold prepareNewer at h
  rw [course_line_bind] at h
  obtain ⟨reply, es₁, rfl, h₁⟩ := (course_call_bind _ _ _ _).mp h
  rcases (course_demand_bind _ _ _ _).mp h₁ with ⟨m, rfl, h₂⟩ | ⟨_, _, _, ⟨⟩⟩
  rw [course_line_bind] at h₂
  obtain ⟨peers, pinning, es₂, rfl, hpeers, h₃⟩ := (course_bind_ok _ _ _ _).mp h₂
  have h₄ := (course_forM_line_bind _ _ _ _ _).mp h₃
  rw [course_line_bind] at h₄
  obtain ⟨codemods, choosing, es₃, rfl, hchosen, h₅⟩ := (course_bind_ok _ _ _ _).mp h₄
  obtain ⟨followUps, asking, es₄, rfl, hwanted, h₆⟩ := (course_bind_ok _ _ _ _).mp h₅
  rw [course_line_bind] at h₆
  obtain ⟨rfl, ⟨⟩⟩ := (course_pure _ _ _).mp h₆
  exact ⟨{ peers, pinning, choosing, asking
           exchanges := by rw [List.append_nil]
           resolved := hpeers, chosen := hchosen, asked := hwanted
           installed_eq := rfl, target_eq := rfl, pins_eq := rfl }⟩

/-- These parts make up a course of the preparation. -/
theorem Preparation.course {x : Context} {target : Target} {installed : Version}
    {applicable : List Codemod} {es : List (Exchange Call.Reply)} {p : Prepared}
    (d : Preparation x target installed applicable es p) :
    (prepareNewer x target installed applicable).Course es (.ok p) := by
  rw [d.exchanges]
  unfold prepareNewer
  rw [course_line_bind]
  refine (course_call_bind _ _ _ _).mpr ⟨.ok p.manifest, _, rfl, ?_⟩
  refine (course_demand_bind _ _ _ _).mpr (.inl ⟨p.manifest, rfl, ?_⟩)
  rw [course_line_bind]
  refine (course_bind_ok _ _ _ _).mpr ⟨d.peers, d.pinning, _, rfl, d.resolved, ?_⟩
  refine (course_forM_line_bind _ _ _ _ _).mpr ?_
  rw [course_line_bind]
  refine (course_bind_ok _ _ _ _).mpr ⟨p.codemods, d.choosing, _, rfl, d.chosen, ?_⟩
  refine (course_bind_ok _ _ _ _).mpr
    ⟨p.followUps, d.asking, [], (List.append_nil _).symm, d.asked, ?_⟩
  rw [course_line_bind, course_pure]
  refine ⟨rfl, congrArg Except.ok ?_⟩
  calc
    p = ⟨p.installed, p.target, p.manifest, p.pins, p.codemods, p.followUps⟩ := rfl
    _ = _ := by rw [d.installed_eq, d.target_eq, d.pins_eq]

/-- The part that prepares an upgrade reads the manifest, looks for the peers and asks the
user. -/
theorem asks_prepareNewer_of {p : Call → Prop} (hread : p .readManifest)
    (hinstalled : p (.installed reactPackage))
    (hselect : ∀ question choices, p (.select question choices))
    (hconfirm : ∀ question, p (.confirm question true)) (x : Context) {target : Target}
    (hpublished : ∀ m, ∀ w ∈ wantedPeers target m, p (.published w.package))
    (installed : Version) (applicable : List Codemod) :
    (prepareNewer x target installed applicable).Asks p := by
  refine Asks.bind (asks_line _ _) fun _ => Asks.bind (asks_call hread) fun reply =>
    Asks.bind (asks_demand _ _) fun m => Asks.bind (asks_line _ _) fun _ =>
    Asks.bind ?_ fun peers => Asks.bind (asks_forM_line _ _ _) fun _ =>
    Asks.bind (asks_line _ _) fun _ => Asks.bind ?_ fun codemods =>
    Asks.bind ?_ fun followUps => Asks.bind (asks_line _ _) fun _ => .done _
  · refine (Resolve.asks_peers _).mono ?_
    rintro _ ⟨w, hw, rfl⟩
    exact hpublished m w hw
  · refine (Plan.asks_chosen _ _).mono ?_
    rintro _ rfl
    exact hselect _ _
  · refine (FollowUp.asks_wanted _ _ _ _).mono ?_
    rintro _ (rfl | ⟨_, rfl⟩)
    · exact hinstalled
    · exact hconfirm _

/-- To prepare an upgrade only makes enquiries. -/
theorem asks_prepareNewer (x : Context) (target : Target) (installed : Version)
    (applicable : List Codemod) :
    (prepareNewer x target installed applicable).Asks (·.stage = .enquiry) :=
  asks_prepareNewer_of (p := fun c => c.stage = .enquiry) rfl rfl (fun _ _ => rfl) (fun _ => rfl)
    x (fun _ _ _ => rfl) installed applicable

/-! ### The whole upgrade -/

/-- The exchanges of an upgrade that is completed, and how its report is made of them. -/
structure Completion (x : Context) (token : String) (es : List (Exchange Call.Reply))
    (r : Report) where
  target : Target
  applicable : List Codemod
  prepared : Prepared
  resolving : List (Exchange Call.Reply)
  preparing : List (Exchange Call.Reply)
  installing : List (Exchange Call.Reply)
  transforming : List (Exchange Call.Reply)
  migrating : List (Exchange Call.Reply)
  exchanges : es = resolving ++ ⟨.installed frameworkPackage, .ok r.installed⟩ ::
    (preparing ++ ⟨.writeManifest (revised prepared).1, .ok ()⟩ ::
      (installing ++ (transforming ++ migrating)))
  resolved : (Resolve.target frameworkPackage token).Course resolving (.ok target)
  decided : Plan.decide x.catalog r.installed target.version = .applicable applicable
  prepares : (prepareNewer x target r.installed applicable).Course preparing (.ok prepared)
  installed : (install x (revised prepared).1 prepared.pins).Course installing (.ok r.install)
  transformed : (applyCodemods x prepared.codemods).Course transforming (.ok r.codemods)
  migrated : (applyRecipes x prepared.followUps.recipes).Course migrating (.ok r.recipes)
  target_eq : r.target = target.version
  pinned_eq : r.pinned = (revised prepared).2.1
  turbopack_eq : r.turbopack = (revised prepared).2.2

/-- The ways in which an upgrade ends, and the exchanges up to there. -/
inductive Outline (x : Context) (token : String) :
    List (Exchange Call.Reply) → Except Fault Outcome → Prop where
  | refused {es : List (Exchange Call.Reply)} (fault : Fault)
      (enquiries : ∀ e ∈ es, e.call.stage = .enquiry) : Outline x token es (.error fault)
  | unwritten {es : List (Exchange Call.Reply)} (m : Manifest) (fault : Fault)
      (enquiries : ∀ e ∈ es, e.call.stage = .enquiry) :
      Outline x token (es ++ [⟨.writeManifest m, .error fault⟩]) (.error fault)
  | current {es : List (Exchange Call.Reply)} {target : Target} {installed : Version}
      (resolved : (Resolve.target frameworkPackage token).Course es (.ok target))
      (decided : Plan.decide x.catalog installed target.version = .alreadyCurrent) :
      Outline x token (es ++ [⟨.installed frameworkPackage, .ok installed⟩])
        (.ok (.alreadyCurrent installed target.version))
  | completed {es : List (Exchange Call.Reply)} {r : Report} (c : Completion x token es r) :
      Outline x token es (.ok (.completed r))

/-- To resolve a target only makes enquiries. -/
theorem enquiries_of_target {token : String} {es : List (Exchange Call.Reply)}
    {r : Except Fault Target}
    (h : (Resolve.target frameworkPackage token).Course es r) :
    ∀ e ∈ es, e.call.stage = .enquiry := by
  intro e he
  rcases (Resolve.asks_target _ _).of_course h e he with hc | ⟨_, hc⟩
  · rw [hc]
    rfl
  · rw [hc]
    rfl

/-- What an upgrade has asked when it turns to a newer target. -/
theorem enquiries_append {token : String} {target : Target} {installed : Except Fault Version}
    {resolving es : List (Exchange Call.Reply)}
    (h : (Resolve.target frameworkPackage token).Course resolving (.ok target))
    (hes : ∀ e ∈ es, e.call.stage = .enquiry) :
    ∀ e ∈ resolving ++ ⟨.installed frameworkPackage, installed⟩ :: es,
      e.call.stage = .enquiry := by
  intro e he
  rcases List.mem_append.mp he with he | he
  · exact enquiries_of_target h e he
  · rcases List.mem_cons.mp he with rfl | he
    · rfl
    · exact hes e he

/-- The ends of an upgrade that has decided for a newer target. -/
theorem outline_of_applicable {x : Context} {token : String} {target : Target}
    {installed : Version} {applicable : List Codemod}
    {resolving es : List (Exchange Call.Reply)} {r : Except Fault Outcome}
    (htarget : (Resolve.target frameworkPackage token).Course resolving (.ok target))
    (hdecide : Plan.decide x.catalog installed target.version = .applicable applicable)
    (h : (do
        let prepared ← prepareNewer x target installed applicable
        return .completed (← commit x prepared) : Script Outcome).Course es r) :
    Outline x token (resolving ++ ⟨.installed frameworkPackage, .ok installed⟩ :: es) r := by
  rcases (course_bind _ _ _ _).mp h with
    ⟨p, preparing, es₁, rfl, hprepare, h₁⟩ | ⟨fault, rfl, hfail⟩
  -- The upgrade is prepared, and up to here it has made enquiries only.
  · have henquiries : ∀ e ∈ resolving ++ ⟨.installed frameworkPackage, .ok installed⟩ :: preparing,
        e.call.stage = .enquiry :=
      enquiries_append htarget ((asks_prepareNewer _ _ _ _).of_course hprepare)
    obtain ⟨preparation⟩ := preparation_of_course hprepare
    rcases (course_bind _ _ _ _).mp h₁ with
      ⟨report, es₂, es₃, rfl, hcommit, h₂⟩ | ⟨fault, rfl, hfail⟩
    · obtain ⟨rfl, rfl⟩ := (course_pure _ _ _).mp h₂
      rcases course_commit hcommit with ⟨_, _, ⟨⟩⟩ | ⟨rest, rfl, hcarry⟩
      obtain ⟨_, _, _, installing, transforming, migrating, rfl, hinstall, hcodemods, hrecipes,
        ⟨⟩⟩ := course_carryOut hcarry
      cases preparation.installed_eq
      exact .completed
        { target, applicable, prepared := p
          resolving, preparing, installing, transforming, migrating
          exchanges := by rw [List.append_nil]
          resolved := htarget, decided := hdecide, prepares := hprepare
          installed := hinstall, transformed := hcodemods, migrated := hrecipes
          target_eq := preparation.target_eq, pinned_eq := rfl, turbopack_eq := rfl }
    · rcases course_commit hfail with ⟨_, rfl, ⟨⟩⟩ | ⟨_, rfl, hcarry⟩
      -- After the write nothing fails, so the fault is that of the write.
      · rw [← List.cons_append, ← List.append_assoc]
        exact .unwritten (revised p).1 fault henquiries
      · obtain ⟨_, _, _, _, _, _, _, _, _, _, ⟨⟩⟩ := course_carryOut hcarry
  · exact .refused fault (enquiries_append htarget ((asks_prepareNewer _ _ _ _).of_course hfail))

/-- An upgrade ends in one of the ways of `Outline`. -/
theorem outline_of_course {x : Context} {token : String} {es : List (Exchange Call.Reply)}
    {r : Except Fault Outcome} (h : (run x token).Course es r) : Outline x token es r := by
  unfold run at h
  rw [course_line_bind] at h
  rcases (course_bind _ _ _ _).mp h with
    ⟨target, resolving, es₁, rfl, htarget, h₁⟩ | ⟨fault, rfl, hfail⟩
  -- Behind the target the upgrade may end at the installed version, or have nothing to do.
  · rw [course_line_bind, course_line_bind] at h₁
    obtain ⟨reply, es₂, rfl, h₂⟩ := (course_call_bind _ _ _ _).mp h₁
    rcases (course_demand_bind _ _ _ _).mp h₂ with ⟨installed, rfl, h₃⟩ | ⟨fault, rfl, rfl, rfl⟩
    · cases hdecide : Plan.decide x.catalog installed target.version with
      | alreadyCurrent =>
        rw [hdecide] at h₃
        dsimp only at h₃
        rw [course_line_bind] at h₃
        obtain ⟨rfl, rfl⟩ := (course_pure _ _ _).mp h₃
        exact .current htarget hdecide
      | applicable applicable =>
        rw [hdecide] at h₃
        exact outline_of_applicable htarget hdecide h₃
    · exact .refused fault (enquiries_append htarget (by simp))
  · exact .refused fault (enquiries_of_target hfail)

/-- A completed upgrade was prepared, written and carried out. -/
theorem completion_of_course {x : Context} {token : String} {es : List (Exchange Call.Reply)}
    {r : Report} (h : (run x token).Course es (.ok (.completed r))) :
    Nonempty (Completion x token es r) := by
  cases outline_of_course h with
  | completed c => exact ⟨c⟩

/-- A play that ends with a report is a completed upgrade. -/
theorem completion_of_run {σ : Type} {h : Handler Call.Reply σ} {x : Context} {token : String}
    {s : σ} {r : Report} (hrun : ((run x token).run h s).1 = .ok (.completed r)) :
    Nonempty (Completion x token ((run x token).exchanges h s) r) := by
  apply completion_of_course
  rw [← hrun]
  exact course_run h (run x token) s

namespace Completion

variable {x : Context} {token : String} {es : List (Exchange Call.Reply)} {r : Report}

/-- Everything that `Completion` says belongs together is a completed upgrade. -/
theorem course (c : Completion x token es r) : (run x token).Course es (.ok (.completed r)) := by
  obtain ⟨d⟩ := preparation_of_course c.prepares
  have hreport : r = ⟨c.prepared.installed, c.prepared.target, (revised c.prepared).2.1,
      (revised c.prepared).2.2, r.install, r.codemods, r.recipes⟩ := by
    rw [d.installed_eq, d.target_eq, ← c.target_eq, ← c.pinned_eq, ← c.turbopack_eq]
  have hcommit : (commit x c.prepared).Course (⟨.writeManifest (revised c.prepared).1, .ok ()⟩ ::
      (c.installing ++ (c.transforming ++ c.migrating))) (.ok r) := by
    have hcarry := course_commit_written
      (course_carryOut_append c.installed c.transformed c.migrated)
    rwa [← hreport] at hcarry
  -- Now the upgrade is put together from its parts, one call after another.
  rw [c.exchanges]
  unfold run
  rw [course_line_bind]
  refine (course_bind_ok _ _ _ _).mpr ⟨c.target, c.resolving, _, rfl, c.resolved, ?_⟩
  rw [course_line_bind, course_line_bind]
  refine (course_call_bind _ _ _ _).mpr ⟨.ok r.installed, _, rfl, ?_⟩
  refine (course_demand_bind _ _ _ _).mpr (.inl ⟨r.installed, rfl, ?_⟩)
  rw [c.decided]
  refine (course_bind_ok _ _ _ _).mpr ⟨c.prepared, c.preparing, _, rfl, c.prepares, ?_⟩
  refine (course_bind_ok _ _ _ _).mpr ⟨r, _, [], (List.append_nil _).symm, hcommit, ?_⟩
  rw [course_pure]
  exact ⟨rfl, rfl⟩

/-- The exchanges before the manifest is written. -/
def before (c : Completion x token es r) : List (Exchange Call.Reply) :=
  c.resolving ++ ⟨.installed frameworkPackage, .ok r.installed⟩ :: c.preparing

/-- The exchanges after the manifest is written. -/
def after (c : Completion x token es r) : List (Exchange Call.Reply) :=
  c.installing ++ (c.transforming ++ c.migrating)

/-- The one writing stands between what comes before it and what comes after it. -/
theorem exchanges_eq (c : Completion x token es r) :
    es = c.before ++ ⟨.writeManifest (revised c.prepared).1, .ok ()⟩ :: c.after := by
  rw [before, List.append_assoc]
  exact c.exchanges

/-- All that comes before the writing is enquiries. -/
theorem enquiries (c : Completion x token es r) : ∀ e ∈ c.before, e.call.stage = .enquiry :=
  enquiries_append c.resolved ((asks_prepareNewer _ _ _ _).of_course c.prepares)

/-- The calls after the manifest is written are neither enquiries nor writes. -/
theorem stage_after (c : Completion x token es r) :
    ∀ e ∈ c.after, e.call.stage ≠ .enquiry ∧ e.call.stage ≠ .writing := by
  intro e he
  rcases List.mem_append.mp he with he | he
  · rw [stage_of_install c.installed e he]
    exact ⟨nofun, nofun⟩
  · rcases List.mem_append.mp he with he | he
    · rw [stage_of_applyCodemods c.transformed e he]
      exact ⟨nofun, nofun⟩
    · rw [stage_of_applyRecipes c.migrated e he]
      exact ⟨nofun, nofun⟩

/-- What only enquiries show is to be found before the manifest is written. -/
theorem filterMap_enquiries (c : Completion x token es r) {β : Type}
    {f : Exchange Call.Reply → Option β} (hf : ∀ e, e.call.stage ≠ .enquiry → f e = none) :
    es.filterMap f = c.before.filterMap f := by
  have hafter : c.after.filterMap f = [] :=
    List.filterMap_eq_nil_iff.mpr fun e he => hf e (c.stage_after e he).1
  have hwrite : f ⟨.writeManifest (revised c.prepared).1, .ok ()⟩ = none := hf _ nofun
  refine (congrArg (List.filterMap f) c.exchanges_eq).trans ?_
  rw [List.filterMap_append, List.filterMap_cons_none hwrite, hafter, List.append_nil]

/-- What neither enquiries nor the write show is to be found in the three parts behind. -/
theorem filterMap_steps (c : Completion x token es r) {β : Type}
    {f : Exchange Call.Reply → Option β}
    (hf : ∀ e, e.call.stage = .enquiry ∨ e.call.stage = .writing → f e = none) :
    es.filterMap f =
      c.installing.filterMap f ++ (c.transforming.filterMap f ++ c.migrating.filterMap f) := by
  have hbefore : c.before.filterMap f = [] :=
    List.filterMap_eq_nil_iff.mpr fun e he => hf e (.inl (c.enquiries e he))
  have hwrite : f ⟨.writeManifest (revised c.prepared).1, .ok ()⟩ = none := hf _ (.inr rfl)
  refine (congrArg (List.filterMap f) c.exchanges_eq).trans ?_
  rw [List.filterMap_append, hbefore, List.nil_append, List.filterMap_cons_none hwrite, after,
    List.filterMap_append, List.filterMap_append]

/-- What only codemods show is to be found among the codemods. -/
theorem filterMap_codemods (c : Completion x token es r) {β : Type}
    {f : Exchange Call.Reply → Option β} (hf : ∀ e, e.call.stage ≠ .codemods → f e = none) :
    es.filterMap f = c.transforming.filterMap f := by
  have hsteps := c.filterMap_steps fun e he => hf e (by rcases he with h | h <;> rw [h] <;> nofun)
  rw [hsteps, filterMap_eq_nil_of_stage hf (stage_of_install c.installed) nofun,
    filterMap_eq_nil_of_stage hf (stage_of_applyRecipes c.migrated) nofun, List.nil_append,
    List.append_nil]

/-- What only recipes show is to be found among the recipes. -/
theorem filterMap_recipes (c : Completion x token es r) {β : Type}
    {f : Exchange Call.Reply → Option β} (hf : ∀ e, e.call.stage ≠ .recipes → f e = none) :
    es.filterMap f = c.migrating.filterMap f := by
  have hsteps := c.filterMap_steps fun e he => hf e (by rcases he with h | h <;> rw [h] <;> nofun)
  rw [hsteps, filterMap_eq_nil_of_stage hf (stage_of_install c.installed) nofun,
    filterMap_eq_nil_of_stage hf (stage_of_applyCodemods c.transformed) nofun, List.nil_append,
    List.nil_append]

/-- What only enquiries show, by the parts that make enquiries. -/
theorem filterMap_parts (c : Completion x token es r)
    (d : Preparation x c.target r.installed c.applicable c.preparing c.prepared) {β : Type}
    {f : Exchange Call.Reply → Option β} (hf : ∀ e, e.call.stage ≠ .enquiry → f e = none) :
    es.filterMap f = c.resolving.filterMap f ++
      ((f ⟨.installed frameworkPackage, .ok r.installed⟩).toList ++
        ((f ⟨.readManifest, .ok c.prepared.manifest⟩).toList ++
          (d.pinning.filterMap f ++ (d.choosing.filterMap f ++ d.asking.filterMap f)))) := by
  have hpreparing : c.preparing.filterMap f =
      (⟨.readManifest, .ok c.prepared.manifest⟩ ::
        (d.pinning ++ (d.choosing ++ d.asking))).filterMap f :=
    congrArg (List.filterMap f) d.exchanges
  rw [c.filterMap_enquiries hf, before, List.filterMap_append, filterMap_cons_append,
    hpreparing, filterMap_cons_append, List.filterMap_append, List.filterMap_append]

/-- What an enquiry shows, unless it is a search, a lookup or a question of yes or no: it comes
from the target, the manifest or the choice of codemods. -/
theorem filterMap_chosen (c : Completion x token es r)
    (d : Preparation x c.target r.installed c.applicable c.preparing c.prepared) {β : Type}
    {f : Exchange Call.Reply → Option β} (hf : ∀ e, e.call.stage ≠ .enquiry → f e = none)
    (hpublished : ∀ package reply, f ⟨.published package, reply⟩ = none)
    (hinstalled : ∀ package reply, f ⟨.installed package, reply⟩ = none)
    (hconfirm : ∀ question byDefault reply, f ⟨.confirm question byDefault, reply⟩ = none) :
    es.filterMap f = c.resolving.filterMap f ++
      ((f ⟨.readManifest, .ok c.prepared.manifest⟩).toList ++ d.choosing.filterMap f) := by
  have hpinning : d.pinning.filterMap f = [] :=
    (Resolve.asks_peers _).filterMap_eq_nil d.resolved
      (by rintro ⟨_, reply⟩ ⟨w, _, rfl⟩; exact hpublished w.package reply)
  have hasking : d.asking.filterMap f = [] := by
    refine (FollowUp.asks_wanted _ _ _ _).filterMap_eq_nil d.asked ?_
    rintro ⟨_, reply⟩ (rfl | ⟨question, rfl⟩)
    · exact hinstalled _ reply
    · exact hconfirm question true reply
  have hlookup : f ⟨.installed frameworkPackage, .ok r.installed⟩ = none := hinstalled _ _
  rw [c.filterMap_parts d hf, hlookup, hpinning, hasking, List.append_nil]
  rfl

/-- The one manifest that a completed upgrade reads. -/
theorem read_eq (c : Completion x token es r) :
    es.filterMap Exchange.read? = [c.prepared.manifest] := by
  obtain ⟨d⟩ := preparation_of_course c.prepares
  have hresolving : c.resolving.filterMap Exchange.read? = [] :=
    (Resolve.asks_target _ _).filterMap_eq_nil c.resolved
      (by rintro ⟨_, _⟩ (rfl | ⟨_, rfl⟩) <;> rfl)
  have hchoosing : d.choosing.filterMap Exchange.read? = [] :=
    (Plan.asks_chosen _ _).filterMap_eq_nil d.chosen (by rintro ⟨_, _⟩ rfl; rfl)
  rw [c.filterMap_chosen d (fun _ => Exchange.read?_eq_none) (fun _ _ => rfl) (fun _ _ => rfl)
    (fun _ _ _ => rfl), hresolving, hchoosing]
  rfl

/-- The pins of the report are those that were prepared. -/
theorem pins_eq (c : Completion x token es r) :
    r.pinned.map WrittenPin.pin = c.prepared.pins := by
  rw [c.pinned_eq, pinned_revised, pins_pinAll]

/-- The one release that a completed upgrade is told of is the one it goes to. -/
theorem released_eq (c : Completion x token es r) :
    ∃ release, es.filterMap Exchange.released? = [release] ∧ release.target? = .ok c.target := by
  obtain ⟨d⟩ := preparation_of_course c.prepares
  obtain ⟨front, key, release, hresolving, htarget, hfront⟩ := Resolve.course_target_ok c.resolved
  refine ⟨release, ?_, htarget⟩
  have hsearching : front.filterMap Exchange.released? = [] := by
    rw [List.filterMap_eq_nil_iff]
    intro ⟨call, reply⟩ he
    obtain rfl : call = .published frameworkPackage := hfront _ he
    rfl
  have hreleased : c.resolving.filterMap Exchange.released? = [release] := by
    rw [hresolving, List.filterMap_append, hsearching]
    rfl
  have hchoosing : d.choosing.filterMap Exchange.released? = [] :=
    (Plan.asks_chosen _ _).filterMap_eq_nil d.chosen (by rintro ⟨_, _⟩ rfl; rfl)
  rw [c.filterMap_chosen d (fun _ => Exchange.released?_eq_none) (fun _ _ => rfl)
    (fun _ _ => rfl) (fun _ _ _ => rfl), hreleased, hchoosing]
  rfl

/-- The one manifest that a completed upgrade writes. -/
theorem written_eq (c : Completion x token es r) :
    es.filterMap Exchange.written? = [(revised c.prepared).1] := by
  have hbefore : c.before.filterMap Exchange.written? = [] :=
    List.filterMap_eq_nil_iff.mpr fun e he =>
      Exchange.written?_eq_none (by rw [c.enquiries e he]; nofun)
  have hafter : c.after.filterMap Exchange.written? = [] :=
    List.filterMap_eq_nil_iff.mpr fun e he =>
      Exchange.written?_eq_none (c.stage_after e he).2
  refine (congrArg (List.filterMap _) c.exchanges_eq).trans ?_
  rw [List.filterMap_append, hbefore,
    List.filterMap_cons_some (f := Exchange.written?) rfl, hafter]
  rfl

end Completion

end Upgrade

end FrameworkUpgrade
