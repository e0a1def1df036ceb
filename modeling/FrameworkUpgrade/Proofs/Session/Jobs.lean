import FrameworkUpgrade.Proofs.Dialogue.History
import FrameworkUpgrade.Proofs.Outcome
import FrameworkUpgrade.Session

/-!
# `FrameworkUpgrade.Proofs.Session.Jobs`: which requests the jobs of a session make

A session is put together from jobs on the machine. Most of them only look at files, read and
write them or talk to the user: their requests are internal (`Request.IsInternal`). Git is asked
two questions (`Request.IsLocal`). Two jobs go further, and their lemmas say how far:
`Commands.asks_runOr` that a command which is run is its only request, and
`Registry.asks_document` that a document is fetched by the request for its URL and by those that
the responses send on to (`Registry.Reached`).

`Session.Makes` says for every call of an upgrade which requests it comes down to, and
`Session.asks_carryOut_makes` that there are no others. Where a response sends on to is known from
the exchanges before, so both are told these. What a session asks Git stands in one piece,
`Session.remarkOn`, behind the search for a directory to ask in (`Session.showWorkTree_eq`).
-/

set_option autoImplicit false

namespace FrameworkUpgrade

open Dialogue

/-! ### Requests -/

/-- A request that neither reaches the network nor runs a program. -/
def Request.IsInternal : Request → Prop
  | .fetch _ => False
  | .command _ _ => False
  | _ => True

/-- A question to Git. -/
def Command.IsQuestion (c : Command) : Prop :=
  c.program = WorkTree.program ∧ c.arguments ∈ [WorkTree.insideQuestion, WorkTree.statusQuestion]

/-- A request that does not reach the network and runs nothing but a question to Git. -/
def Request.IsLocal : Request → Prop
  | .fetch _ => False
  | .command c _ => c.IsQuestion
  | _ => True

/-- A question to Git whose answer is not shown as it comes. -/
def Request.IsQuietQuestion : Request → Prop
  | .command c .kept => c.IsQuestion
  | _ => False

/-- A request that runs a command. -/
def Request.Executes (c : Command) : Request → Prop
  | .command c' _ => c' = c
  | _ => False

/-- The request for the document under `url` leads to a URL over `n` redirects, each of them a
response to the request for the URL before it. The last response is the last of the exchanges. -/
inductive Registry.Reached (url accept : String) :
    (n : Nat) → List (Exchange Request.Reply) → Url → Prop where
  | asked {past : List (Exchange Request.Reply)} {u : Url}
      (h : Registry.requested url = .ok u) : Reached url accept 0 past u
  | sentOn {n : Nat} {past : List (Exchange Request.Reply)} {u next : Url}
      {response : HttpResponse} (h : Reached url accept n past u)
      (hnext : Registry.sentOn? u response = some next) (hweb : next.isWeb = true) :
      Reached url accept (n + 1)
        (past ++ [⟨.fetch (Registry.requestFor u accept), some response⟩]) next

/-- A request for the document under a URL, or for where the responses before it send on to. -/
def Request.Fetches (url : String) (past : List (Exchange Request.Reply)) : Request → Prop
  | .fetch r => ∃ accept u, ∃ n ≤ Registry.maxRedirects,
      Registry.Reached url accept n past u ∧ r = Registry.requestFor u accept
  | _ => False

/-- What is internal is local. -/
theorem Request.IsInternal.isLocal {r : Request} (h : r.IsInternal) : r.IsLocal := by
  cases r with
  | fetch => cases h
  | command => cases h
  | _ => trivial

/-- A quiet question is local. -/
theorem Request.IsQuietQuestion.isLocal {r : Request} (h : r.IsQuietQuestion) : r.IsLocal := by
  cases r with
  | command c output =>
    cases output with
    | kept => exact h
    | shown => cases h
  | _ => cases h

/-! ### Jobs on the machine -/

/-- To look whether a path exists is internal. -/
theorem asks_pathExists (path : String) : (Job.pathExists path).Asks Request.IsInternal :=
  Asks.bind (asks_call trivial) fun _ => .done _

/-- To look for a file is internal. -/
theorem asks_isFile (path : String) : (Job.isFile path).Asks Request.IsInternal :=
  Asks.bind (asks_call trivial) fun _ => .done _

/-- To look for a directory is internal. -/
theorem asks_isDirectory (path : String) : (Job.isDirectory path).Asks Request.IsInternal :=
  Asks.bind (asks_call trivial) fun _ => .done _

/-- To read a text is internal. -/
theorem asks_readText (path : String) : (Job.readText path).Asks Request.IsInternal :=
  Asks.bind (asks_call trivial) fun _ => .done _

/-- To find a project is internal. -/
theorem Project.asks_find (path : String) : (Project.find path).Asks Request.IsInternal := by
  refine Asks.bind (asks_call trivial) fun reply => ?_
  split
  · exact .fail _
  · refine Asks.bind (asks_isDirectory _) fun isDirectory => ?_
    split
    · exact .fail _
    · split
      · exact .fail _
      · refine Asks.bind (asks_isFile _) fun isFile => ?_
        split
        · exact .done _
        · exact .fail _

/-- A project that is found has the directory that the path was resolved to. -/
theorem Project.course_find_ok {path : String} {es : List (Exchange Request.Reply)} {p : Project}
    (h : (Project.find path).Course es (.ok p)) :
    (⟨.canonical path, .ok p.directory⟩ : Exchange Request.Reply) ∈ es := by
  obtain ⟨reply, rest, rfl, h₁⟩ := (course_call_bind _ _ _ _).mp h
  split at h₁
  · obtain ⟨_, ⟨⟩⟩ := (course_fail _ _ _).mp h₁
  · obtain ⟨isDirectory, _, es₂, rfl, _, h₂⟩ := (course_bind_ok _ _ _ _).mp h₁
    split at h₂
    · obtain ⟨_, ⟨⟩⟩ := (course_fail _ _ _).mp h₂
    · split at h₂
      · obtain ⟨_, ⟨⟩⟩ := (course_fail _ _ _).mp h₂
      · obtain ⟨isFile, _, es₃, rfl, _, h₃⟩ := (course_bind_ok _ _ _ _).mp h₂
        split at h₃
        · obtain ⟨_, ⟨⟩⟩ := (course_pure _ _ _).mp h₃
          exact List.mem_cons_self
        · obtain ⟨_, ⟨⟩⟩ := (course_fail _ _ _).mp h₃

/-- To find the work tree of a path is internal. -/
theorem WorkTree.asks_ofPath (path : String) : (WorkTree.ofPath path).Asks Request.IsInternal := by
  unfold WorkTree.ofPath
  split
  · exact .fail _
  · refine Asks.bind (asks_isDirectory _) fun isDirectory => ?_
    split
    · exact .done _
    · exact .fail _

/-- A question to Git in a work tree. -/
def WorkTree.question (tree : WorkTree) (arguments : List String) : Request :=
  .command { program := WorkTree.program, arguments, directory := tree.directory } .kept

/-- Whether a reply says that the directory lies in a work tree. -/
def WorkTree.saysInside : Except OsFault Finished → Bool
  | .ok finished => finished.ending.isSuccess
  | .error _ => false

/-- What is asked of Git and shown of it, once there is a directory to ask in. -/
def Session.remarkOn (tree : WorkTree) : Job Unit :=
  call (tree.question WorkTree.insideQuestion) >>= fun reply =>
    if WorkTree.saysInside reply then
      call (tree.question WorkTree.statusQuestion) >>= fun reply =>
        (Session.workTreeLines (WorkTree.cleanIn reply)).forM line
    else pure ()

/-- Where there is a directory to ask in, all of the aside is in one piece. -/
theorem Session.showWorkTree_eq (directory : String) :
    Session.showWorkTree directory = (WorkTree.ofPath directory).attempt >>= fun
      | .error _ => pure ()
      | .ok tree => Session.remarkOn tree := by
  unfold Session.showWorkTree
  congr 1
  funext tree
  cases tree with
  | error _ => rfl
  | ok tree =>
    refine congrArg (Dialogue.ask _) (funext fun reply => ?_)
    cases reply <;> rfl

/-- A remark on a work tree asks quiet questions only. -/
theorem Session.asks_remarkOn (tree : WorkTree) :
    (Session.remarkOn tree).Asks Request.IsQuietQuestion := by
  refine Asks.bind (asks_call ⟨rfl, List.mem_cons_self⟩) fun inside => ?_
  split
  · refine Asks.bind (asks_call ⟨rfl, List.mem_cons_of_mem _ List.mem_cons_self⟩) fun status => ?_
    exact asks_forM_line _ id _
  · exact .done _

/-- To show the state of a work tree is local. -/
theorem Session.asks_showWorkTree (directory : String) :
    (Session.showWorkTree directory).Asks Request.IsLocal := by
  rw [Session.showWorkTree_eq]
  refine Asks.bind ((WorkTree.asks_ofPath _).mono fun _ => Request.IsInternal.isLocal).attempt
    fun tree => ?_
  cases tree with
  | error _ => exact .done _
  | ok tree => exact (Session.asks_remarkOn tree).mono fun _ => Request.IsQuietQuestion.isLocal

/-- To look for lock files is internal. -/
theorem Settings.asks_lockedManager (project : String) (files : List (String × PackageManager)) :
    (Settings.lockedManager project files).Asks Request.IsInternal := by
  induction files with
  | nil => exact .done _
  | cons file files ih =>
    refine Asks.bind (asks_pathExists _) fun found => ?_
    split
    · exact .done _
    · exact ih

/-- To read the settings of a project is internal. -/
theorem Settings.asks_ofProject (e : Environment) (project : String) :
    (Settings.ofProject e project).Asks Request.IsInternal := by
  have hfile : (Settings.ofFile project).Asks Request.IsInternal := by
    refine Asks.bind (asks_pathExists _) fun found => ?_
    split
    · refine Asks.bind (asks_readText _) fun content => ?_
      split
      · exact .done _
      · exact .fail _
    · exact .done _
  have hnamed : (Settings.namedRegistry e project).Asks Request.IsInternal := by
    unfold Settings.namedRegistry
    split
    · exact .done _
    · exact Asks.bind hfile fun _ => .done _
  have hmanager (agent : Option String) :
      (Settings.managerFor agent project).Asks Request.IsInternal := by
    unfold Settings.managerFor
    split
    · exact .done _
    · exact Asks.bind (Settings.asks_lockedManager _ _) fun _ => .done _
  -- The registry that is named is checked before the manager is looked for.
  refine Asks.bind hnamed fun raw => ?_
  split
  · exact .fail _
  · exact Asks.bind (hmanager _) fun _ => .done _

/-- To look up an installed version is internal. -/
theorem Installed.asks_version (project package : String) :
    (Installed.version project package).Asks Request.IsInternal := by
  have hfile (paths : List String) : (Installed.firstFile paths).Asks Request.IsInternal := by
    induction paths with
    | nil => exact .done _
    | cons path paths ih =>
      refine Asks.bind (asks_isFile _) fun isFile => ?_
      split
      · exact .done _
      · exact ih
  have hfind : (Installed.find project package).Asks Request.IsInternal := by
    refine Asks.bind (hfile _) fun found => ?_
    split
    · exact .done _
    · exact Asks.bind (asks_readText _) fun _ => .done _
  refine Asks.bind hfind fun found => ?_
  split
  · exact .done _
  · exact .fail _

/-- To read a manifest is internal. -/
theorem Store.asks_read (path : String) : (Store.read path).Asks Request.IsInternal := by
  refine Asks.bind (asks_readText _) fun content => ?_
  split
  · exact .done _
  · exact .fail _

/-- To write a manifest is internal. -/
theorem Store.asks_write (path : String) (m : Manifest) :
    (Store.write path m).Asks Request.IsInternal := by
  refine Asks.bind (asks_call trivial) fun reply => ?_
  split
  · exact .done _
  · exact .fail _

/-- To ask yes or no is internal. -/
theorem Interview.asks_confirm (question : String) (byDefault : Bool) :
    (Interview.confirm question byDefault).Asks Request.IsInternal :=
  Asks.bind (asks_call trivial) fun _ => asks_demand _ _

/-- To ask for a selection is internal. -/
theorem Interview.asks_select (question : String) (choices : List Choice) :
    (Interview.select question choices).Asks Request.IsInternal :=
  Asks.bind (asks_forM_line _ _ _) fun _ =>
    Asks.bind (asks_call trivial) fun _ => asks_demand _ _

/-- To look whether there is anyone to ask is internal. -/
theorem Session.asks_mayAsk (e : Environment) : (Session.mayAsk e).Asks Request.IsInternal := by
  refine Asks.bind (asks_call trivial) fun terminal => ?_
  split
  · exact .done _
  · exact Asks.bind (asks_line _ _) fun _ => .done _

/-- To show how an upgrade ended is internal. -/
theorem Session.asks_conclude (m : PackageManager) (outcome : Except Fault Outcome) :
    (Session.conclude m outcome).Asks Request.IsInternal := by
  unfold Session.conclude
  split
  · exact .done _
  · exact asks_forM_line _ id _
  · exact asks_line _ _
  · exact .fail _

/-- A command that is run is the only request. -/
theorem Commands.asks_runOr {p : Request → Prop} (fault : CommandFault → Fault) {c : Command}
    (hc : ∀ output, p (.command c output)) (quiet : Bool) :
    (Commands.runOr fault c quiet).Asks p := by
  refine Asks.bind (Asks.bind (asks_call (hc _)) fun _ => .done _) fun reply => ?_
  split
  · exact .done _
  · exact .fail _

/-- A request that redirects have led to is one of those for the document, and so is all that
follows if it is where the response sends on to. -/
theorem Registry.asks_follow_of {url accept : String} {u : Url} {n left : Nat}
    {past : List (Exchange Request.Reply)} (hu : Registry.Reached url accept n past u)
    (hn : n ≤ Registry.maxRedirects)
    (hagain : ∀ fewer, left = fewer + 1 → ∀ response next,
      Registry.sentOn? u response = some next → next.isWeb = true →
        (Registry.follow url accept fewer next).AsksAfter (Request.Fetches url)
          (past ++ [⟨.fetch (Registry.requestFor u accept), some response⟩])) :
    (Registry.follow url accept left u).AsksAfter (Request.Fetches url) past := by
  have hfetch : Request.Fetches url past (.fetch (Registry.requestFor u accept)) :=
    ⟨accept, u, n, hn, hu, rfl⟩
  rw [Registry.follow]
  refine .ask hfetch fun (response : Option HttpResponse) => ?_
  cases response with
  | none => exact .fail _
  | some response =>
    cases hnext : Registry.sentOn? u response with
    | none =>
      simp only [hnext, Dialogue.bind]
      exact .done _
    | some next =>
      simp only [hnext, Dialogue.bind]
      cases left with
      | zero => exact .fail _
      | succ fewer =>
        show AsksAfter _ _ (if next.isWeb then _ else _)
        split
        · rename_i hweb
          exact hagain fewer rfl response next hnext hweb
        · exact .fail _

/-- The redirects that are followed are those of the responses, and no more than the limit. -/
theorem Registry.asks_follow {url accept : String} {u : Url} {n left : Nat}
    {past : List (Exchange Request.Reply)} (hu : Registry.Reached url accept n past u)
    (hleft : n + left ≤ Registry.maxRedirects) :
    (Registry.follow url accept left u).AsksAfter (Request.Fetches url) past := by
  induction left generalizing n past u with
  | zero => exact asks_follow_of hu hleft nofun
  | succ left ih =>
    refine asks_follow_of hu (by omega) ?_
    rintro _ ⟨⟩ response next hnext hweb
    exact ih (.sentOn hu hnext hweb) (by omega)

/-- A document is fetched by the request for its URL and those that the responses send on to. -/
theorem Registry.asks_document {α : Type} (read : Option Char → List Char → Except Json.Fault α)
    (url accept : String) (past : List (Exchange Request.Reply)) :
    (Registry.document read url accept).AsksAfter (Request.Fetches url) past := by
  have hsend : (Registry.send url accept).AsksAfter (Request.Fetches url) past := by
    unfold Registry.send
    split
    · exact .fail _
    · rename_i u hrequested
      exact Registry.asks_follow (.asked hrequested) (Nat.le_of_eq (Nat.zero_add _))
  refine AsksAfter.bind hsend fun response _ => ?_
  split
  · exact .fail _
  · exact .done _

/-! ### Calls of an upgrade -/

/-- The requests by which a call of an upgrade is carried out, behind some exchanges. -/
def Session.Makes (s : Session) (c : Call) (past : List (Exchange Request.Reply)) :
    Request → Prop :=
  match c with
  | .release package key => Request.Fetches (s.registry.releaseUrl package key) past
  | .published package => Request.Fetches (s.registry.packageUrl package) past
  | .install specifiers dev silent =>
    Request.Executes
      (Commands.installCommand s.settings.manager s.project.directory specifiers dev silent)
  | .transform id directory force verbose =>
    Request.Executes (Commands.launch s.settings.manager directory
      (Commands.transformArguments id directory force verbose))
  | .recipe r directory =>
    Request.Executes (Commands.launch s.settings.manager directory (Commands.recipeArguments r))
  | .installed _ | .readManifest | .writeManifest _ | .select _ _ | .confirm _ _ =>
    Request.IsInternal

/-- A call of an upgrade makes no other requests, whatever comes before it. -/
theorem Session.asks_carryOut_makes (s : Session) (c : Call)
    (past : List (Exchange Request.Reply)) : (s.carryOut c).AsksAfter (s.Makes c) past := by
  cases c with
  | release package key =>
    have hdocument := Registry.asks_document Release.ofText
      (s.registry.releaseUrl package key) Registry.anyForm past
    exact hdocument.attempt
  | published package =>
    have hdocument := Registry.asks_document Published.ofText
      (s.registry.packageUrl package) Registry.shortForm past
    exact hdocument.attempt
  -- What does not depend on earlier exchanges may follow any of them.
  | installed package => exact (Installed.asks_version _ _).attempt.after (fun _ _ => id) past
  | readManifest => exact (Store.asks_read _).attempt.after (fun _ _ => id) past
  | writeManifest m => exact (Store.asks_write _ _).attempt.after (fun _ _ => id) past
  | select question choices =>
    exact (Interview.asks_select _ _).attempt.after (fun _ _ => id) past
  | confirm question byDefault =>
    exact (Interview.asks_confirm _ _).attempt.after (fun _ _ => id) past
  | install specifiers dev silent =>
    refine AsksAfter.attempt ?_
    unfold Commands.install
    split
    · exact .done _
    · exact (Commands.asks_runOr _ (fun _ => rfl) _).after (fun _ _ => id) past
  | transform id directory force verbose =>
    exact (Commands.asks_runOr _ (fun _ => rfl) _).attempt.after (fun _ _ h => h) past
  | recipe r directory =>
    exact (Commands.asks_runOr _ (fun _ => rfl) _).attempt.after (fun _ _ h => h) past

/-! ### A session that knows its settings -/

/-- The upgrade of a project whose settings are known. -/
def Session.proceed (project : Project) (settings : Settings) (revision : String)
    (verbose : Bool) (e : Environment) : Job Unit := do
  line s!"   Registry: {settings.registry}"
  line s!"   Package manager: {settings.manager}"
  let catalog ← Dialogue.demand (Catalog.builtin.mapError .catalog)
  let prompts ← Session.mayAsk e
  let session : Session := { project, settings, verbose }
  let context : Context := { catalog, directory := project.directory, verbose, prompts }
  let outcome ← ((Upgrade.run context revision).interpret session.carryOut).attempt
  Session.conclude settings.manager outcome

/-- Its requests are internal, but for those of the upgrade with the shipped catalog. -/
theorem Session.asks_proceed {p : List (Exchange Request.Reply) → Request → Prop}
    (hinternal : ∀ past (r : Request), r.IsInternal → p past r)
    (project : Project) (settings : Settings) (revision : String) (verbose : Bool)
    (e : Environment)
    (hupgrade : ∀ catalog prompts, Catalog.builtin = .ok catalog → ∀ past,
      ((Upgrade.run { catalog, directory := project.directory, verbose, prompts }
        revision).interpret (Session.mk project settings verbose).carryOut).AsksAfter p past)
    (past : List (Exchange Request.Reply)) :
    (Session.proceed project settings revision verbose e).AsksAfter p past := by
  unfold Session.proceed
  refine asksAfter_line_bind _ (asksAfter_line_bind _ (asksAfter_demand_bind ?_))
  intro catalog hcatalog
  have hbuiltin : Catalog.builtin = .ok catalog := mapError_eq_ok.mp hcatalog
  refine AsksAfter.bind ((Session.asks_mayAsk e).after hinternal past) fun prompts past => ?_
  exact AsksAfter.bind (hupgrade catalog prompts hbuiltin past).attempt fun outcome past =>
    (Session.asks_conclude _ _).after hinternal past

end FrameworkUpgrade
