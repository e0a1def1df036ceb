import FrameworkUpgrade.Proofs.Machine.Twins
import FrameworkUpgrade.Proofs.Session.Jobs

/-!
# `FrameworkUpgrade.Proofs.Session.Bystander`: Git has no say in an upgrade

A session asks Git whether there are changes that are not committed, and shows a remark on that. It
does so in one place, after it has found the project and before it reads the settings.
`upgrade_sameBesidesGit` states that nothing else depends on Git.

The first half is about any two outsides that differ only in how they answer what runs Git, in
whatever form they hold their state. An upgrade has the same result against both and leaves their
states related, and everything that happens in it is the same on both sides, in the same order, but
for one aside (`GitAside`). The aside consists of questions to Git whose answers are not shown, and
then of no line, of the line that all is committed, or of the two lines of the warning.

The second half reads this off two machines in memory with different programs by the name of Git:
the files, the requests to the network, the keys that are left, the other commands and every other
exchange are the same, and what is shown differs at most by the remark.

The argument rests on the shape of a session. Once there is a directory to ask in, the questions and
the remark stand in one piece (`remarkOn`) that cannot fail and has no value, and what follows
(`remainder`) does not run Git again.
-/

set_option autoImplicit false

namespace FrameworkUpgrade

open Dialogue

/-! ### Requests to Git -/

/-- A request that runs Git, for whatever purpose. -/
abbrev Request.RunsGit : Request → Prop :=
  Request.Runs WorkTree.program

/-- A quiet question runs Git. -/
theorem Request.IsQuietQuestion.runsGit {r : Request} (h : r.IsQuietQuestion) : r.RunsGit := by
  cases r with
  | command c output =>
    cases output with
    | kept => exact h.1
    | shown => cases h
  | _ => cases h

/-- What is internal does not run Git. -/
theorem Request.IsInternal.not_runsGit {r : Request} (h : r.IsInternal) : ¬ r.RunsGit := by
  cases r with
  | command => cases h
  | _ => exact id

/-- A fetch does not run Git. -/
theorem Request.Fetches.not_runsGit {r : Request} {url : String}
    {past : List (Exchange Request.Reply)} (h : r.Fetches url past) : ¬ r.RunsGit := by
  cases r with
  | fetch => exact id
  | _ => cases h

/-- What executes another program does not run Git. -/
theorem Request.Executes.not_runsGit {r : Request} {c : Command} (h : r.Executes c)
    (hc : c.program ≠ WorkTree.program) : ¬ r.RunsGit := by
  cases r with
  | command c' output =>
    obtain rfl : c' = c := h
    exact hc
  | _ => cases h

/-- A job that stays internal does not run Git. -/
theorem asks_not_runsGit {α : Type} {job : Job α} (h : job.Asks Request.IsInternal) :
    job.Asks (¬ Request.RunsGit ·) :=
  h.mono fun _ => Request.IsInternal.not_runsGit

/-- The lines that a session may show about changes that are not committed. -/
def gitRemarks : List (List String) :=
  [[], ["✓ Working directory is clean"],
    ["⚠ Warning: Working directory has uncommitted changes",
      "  Commit or stash them first so codemod edits are easy to review."]]

/-- The aside on Git: questions to it whose answers are not shown, then a remark. -/
inductive GitAside : List (Event Request.Reply) → Prop where
  | mk (questions : List (Exchange Request.Reply)) (remark : List String)
      (hquestions : ∀ x ∈ questions, x.call.IsQuietQuestion) (hremark : remark ∈ gitRemarks) :
      GitAside (questions.map .exchanged ++ remark.map fun text => .shown (text ++ "\n"))

namespace Session

/-! ### The aside of a session -/

/-- Whatever Git answers, the lines that are shown of it are among the remarks. -/
theorem workTreeLines_mem (answer : Except ProjectFault Bool) :
    workTreeLines answer ∈ gitRemarks := by
  rcases answer with _ | (_ | _)
  · exact List.mem_cons_self
  · exact List.mem_cons_of_mem _ (List.mem_cons_of_mem _ List.mem_cons_self)
  · exact List.mem_cons_of_mem _ List.mem_cons_self

/-- A remark on the work tree cannot fail: a fault of Git is a remark of its own. -/
theorem unfailing_remarkOn (tree : WorkTree) : (remarkOn tree).Unfailing := by
  refine Unfailing.bind (unfailing_call _) fun inside => ?_
  split
  · exact Unfailing.bind (unfailing_call _) fun status => unfailing_forM_line _
  · exact .done _

variable {σ : Type}

/-- Whatever Git replies, it is asked one question or two, and at most one remark is shown. -/
theorem gitAside_remarkOn (h : Handler Request.Reply σ) (tree : WorkTree) (s : σ) :
    GitAside ((remarkOn tree).transcript h s) := by
  have hinside : (tree.question WorkTree.insideQuestion).IsQuietQuestion :=
    ⟨rfl, List.mem_cons_self⟩
  have hstatus : (tree.question WorkTree.statusQuestion).IsQuietQuestion :=
    ⟨rfl, List.mem_cons_of_mem _ List.mem_cons_self⟩
  unfold remarkOn
  rw [transcript_call_bind]
  split
  · rw [transcript_call_bind, transcript_forM_line]
    exact .mk [⟨_, _⟩, ⟨_, _⟩] _ (by simp [hinside, hstatus]) (workTreeLines_mem _)
  · exact .mk [⟨_, _⟩] [] (by simp [hinside]) List.mem_cons_self

/-- Nothing at all is an aside. -/
theorem gitAside_nil : GitAside [] :=
  .mk [] [] nofun List.mem_cons_self

/-! ### Everything else -/

/-- No package manager and no launcher is Git. -/
theorem program_ne (m : PackageManager) :
    m.program ≠ WorkTree.program ∧ m.launcher.1 ≠ WorkTree.program := by
  cases m <;> decide

/-- The package managers and their launchers are other programs than Git. -/
theorem asks_carryOut_not_runsGit (s : Session) (c : Call) :
    (s.carryOut c).Asks (¬ Request.RunsGit ·) := by
  obtain ⟨hinstall, hlaunch⟩ := program_ne s.settings.manager
  refine (asks_carryOut_makes s c []).asks fun past r hr => ?_
  cases c with
  | release | published => exact Request.Fetches.not_runsGit hr
  | install => exact Request.Executes.not_runsGit hr hinstall
  | transform | recipe => exact Request.Executes.not_runsGit hr hlaunch
  | installed | readManifest | writeManifest | select | confirm =>
    exact Request.IsInternal.not_runsGit hr

/-- What a session does once it has said what Git knows. -/
def remainder (project : Project) (revision : String) (verbose : Bool) (e : Environment) :
    Job Unit := do
  let settings ← Settings.ofProject e project.directory
  proceed project settings revision verbose e

/-- Behind the remark a session does not run Git. -/
theorem asks_remainder (project : Project) (revision : String) (verbose : Bool)
    (e : Environment) : (remainder project revision verbose e).Asks (¬ Request.RunsGit ·) := by
  refine Asks.bind (asks_not_runsGit (Settings.asks_ofProject _ _)) fun settings => ?_
  refine (asks_proceed (fun _ _ => Request.IsInternal.not_runsGit) _ _ _ _ _
    (fun _ _ _ => ?_) []).asks fun _ _ => id
  exact (asks_any _).interpretAfter fun c _ =>
    (asks_carryOut_not_runsGit _ c).after fun _ _ => id

/-! ### Two worlds -/

variable {σ' : Type} {h : Handler Request.Reply σ} {h' : Handler Request.Reply σ'}
  {rel : σ → σ' → Prop}

/-- The look at the work tree is an aside, whatever job follows that does not run Git. -/
theorem sameBesides_showWorkTree (hdiffer : DifferOnly Request.RunsGit h h' rel)
    (directory : String) {rest : Job Unit} (hrest : rest.Asks (¬ Request.RunsGit ·)) {s : σ}
    {s' : σ'} (hs : rel s s') :
    SameBesides GitAside h h' rel (showWorkTree directory >>= fun _ => rest) s s' := by
  rw [showWorkTree_eq, Dialogue.bind_assoc]
  have hpath := asks_not_runsGit (WorkTree.asks_ofPath directory).attempt
  refine .bind_front hpath hdiffer hs gitAside_nil fun tree t t' ht => ?_
  -- Where there is no directory to ask in, the session goes on without an aside.
  cases tree with
  | error _ => exact sameBesides_of_asks hrest hdiffer ht gitAside_nil
  | ok tree =>
    have hgit := (asks_remarkOn tree).mono fun _ => Request.IsQuietQuestion.runsGit
    exact sameBesides_aside hgit (unfailing_remarkOn tree) hrest hdiffer ht
      (gitAside_remarkOn h tree t) (gitAside_remarkOn h' tree t')

/-- Against handlers that differ on Git alone, a session goes the same way but for its aside. -/
theorem sameBesides_upgrade (hdiffer : DifferOnly Request.RunsGit h h' rel)
    (path revision : String) (verbose : Bool) (e : Environment) {s : σ} {s' : σ'}
    (hs : rel s s') :
    SameBesides GitAside h h' rel (upgrade path revision verbose e) s s' := by
  refine .bind_front (asks_line _ _) hdiffer hs gitAside_nil fun _ _ _ hs => ?_
  refine .bind_front (asks_line _ _) hdiffer hs gitAside_nil fun _ _ _ hs => ?_
  have hfind := asks_not_runsGit (Project.asks_find path)
  refine .bind_front hfind hdiffer hs gitAside_nil fun project _ _ hs => ?_
  refine .bind_front (asks_line _ _) hdiffer hs gitAside_nil fun _ _ _ hs => ?_
  -- All behind the aside is the remainder of the session.
  exact sameBesides_showWorkTree hdiffer project.directory
    (asks_remainder project revision verbose e) hs

end Session

/-! ### Two machines -/

/-- A quiet question shows nothing. -/
theorem Request.IsQuietQuestion.shownIn_eq_nil {x : Exchange Request.Reply}
    (h : x.call.IsQuietQuestion) : Machine.shownIn (.exchanged x) = [] := by
  obtain ⟨call, reply⟩ := x
  cases call with
  | command c output =>
    cases output with
    | kept => cases reply <;> rfl
    | shown => cases h
  | _ => rfl

/-- On a machine, an aside on Git shows its remark and nothing else. -/
theorem GitAside.flatMap_shownIn {talk : List (Event Request.Reply)} (h : GitAside talk) :
    ∃ remark ∈ gitRemarks,
      talk.flatMap Machine.shownIn = remark.map .ofLine := by
  obtain ⟨questions, remark, hquestions, hremark⟩ := h
  have hnothing : (questions.map Event.exchanged).flatMap Machine.shownIn = [] := by
    -- The answers are kept, so a machine shows nothing of them.
    rw [List.flatMap_map]
    exact List.flatMap_eq_nil_iff.mpr fun x hx => (hquestions x hx).shownIn_eq_nil
  refine ⟨remark, hremark, ?_⟩
  rw [List.flatMap_append, hnothing, List.nil_append, List.flatMap_map, List.map_eq_flatMap]
  rfl

/-- All exchanges of an aside on Git are with Git. -/
theorem GitAside.filter_exchange? {talk : List (Event Request.Reply)} (h : GitAside talk) :
    (talk.filterMap exchange?).filter (¬ ·.call.RunsGit) = [] := by
  obtain ⟨questions, remark, hquestions, -⟩ := h
  rw [List.filter_eq_nil_iff]
  intro x hx
  rw [List.filterMap_append, List.filterMap_map, List.filterMap_map] at hx
  have hmem : x ∈ questions := by simpa [exchange?, Function.comp_def] using hx
  simpa using (hquestions x hmem).runsGit

/-- What a job comes to on two machines is the same, but for what it asks Git and the remark that
it makes on that. -/
structure Machine.SameBesidesGit {α : Type} (job : Job α) (m m' : Machine) : Prop where
  result : (job.run handler m).1 = (job.run handler m').1
  files : (job.run handler m).2.files = (job.run handler m').2.files
  requests : (job.run handler m).2.requests = (job.run handler m').2.requests
  typed : (job.run handler m).2.typed = (job.run handler m').2.typed
  commands : (job.run handler m).2.otherCommands WorkTree.program =
    (job.run handler m').2.otherCommands WorkTree.program
  exchanges : (job.exchanges handler m).filter (¬ ·.call.RunsGit) =
    (job.exchanges handler m').filter (¬ ·.call.RunsGit)
  output : ∃ before after remark remark', remark ∈ gitRemarks ∧ remark' ∈ gitRemarks ∧
    (job.run handler m).2.output = before ++ remark.map .ofLine ++ after ∧
    (job.run handler m').2.output = before ++ remark'.map .ofLine ++ after

/-- On two machines, a job that goes the same way but for its aside leaves the same behind, and
shows the same but for the remark. -/
theorem Machine.sameBesidesGit_of_sameBesides {α : Type} {job : Job α} {m m' : Machine}
    (houtput : m.output = m'.output)
    (h : SameBesides GitAside handler handler (SameBut WorkTree.program) job m m') :
    SameBesidesGit job m m' := by
  obtain ⟨hresult, hstate, before, after, talk, talk', htalk, htalk', hleft, hright⟩ := h
  refine ⟨hresult, hstate.files, hstate.requests, hstate.typed, hstate.commands, ?_, ?_⟩
  · rw [← filterMap_transcript, ← filterMap_transcript, hleft, hright]
    simp only [List.filterMap_append, List.filter_append, htalk.filter_exchange?,
      htalk'.filter_exchange?]
  · obtain ⟨remark, hremark, hshown⟩ := htalk.flatMap_shownIn
    obtain ⟨remark', hremark', hshown'⟩ := htalk'.flatMap_shownIn
    refine ⟨m.output ++ before.flatMap shownIn, after.flatMap shownIn, remark, remark', hremark,
      hremark', ?_, ?_⟩
    · rw [output_run, hleft]
      simp only [List.flatMap_append, hshown, List.append_assoc]
    · rw [output_run, hright]
      simp only [List.flatMap_append, hshown', houtput, List.append_assoc]

namespace Session

/-- However two outsides differ in Git, an upgrade does the same in both but for the aside on Git.
Two machines with different programs by the name of Git end up the same, and what they show differs
at most by the remark. -/
theorem upgrade_sameBesidesGit (path revision : String) (verbose : Bool) (e : Environment) :
    (∀ {σ σ' : Type} (h : Handler Request.Reply σ) (h' : Handler Request.Reply σ')
      (rel : σ → σ' → Prop), DifferOnly Request.RunsGit h h' rel → ∀ s s', rel s s' →
        SameBesides GitAside h h' rel (upgrade path revision verbose e) s s') ∧
    ∀ (m : Machine) (p : Programs), m.programs.SameBut WorkTree.program p →
      Machine.SameBesidesGit (upgrade path revision verbose e) m { m with programs := p } := by
  refine ⟨fun h h' rel hdiffer s s' hs => ?_, fun m p hp => ?_⟩
  · exact sameBesides_upgrade hdiffer path revision verbose e hs
  · have hrun := sameBesides_upgrade (Machine.differOnly_handler _) path revision verbose e
      (Machine.sameBut_of_programs hp)
    exact Machine.sameBesidesGit_of_sameBesides rfl hrun

/-! ### With changes, and without Git -/

/-- What Git says of a file that was changed. -/
def changedFile : Finished :=
  { output := " M page.js\n".toUTF8 }

/-- The octets of a document with some members. -/
def documentOf (ms : Json.Members) : ByteArray :=
  (Manifest.text ⟨ms⟩).toUTF8

/-- A document that stands under a URL. -/
def routeTo (url : String) (ms : Json.Members) : String × Route :=
  (url, .answers { status := 200, declared := (documentOf ms).size, body := documentOf ms })

/-- The manifest of the project, and the packages that are installed in it. -/
def busyFiles : FileTree :=
  [("/app/package.json",
      [("scripts", .object [("dev", .text "next dev")]),
        ("dependencies", .object [("next", .text "canary")])]),
    ("/app/node_modules/next/package.json", [("version", .text "15.0.0-canary.171")]),
    ("/app/node_modules/react/package.json", [("version", .text "18.2.0")])].foldl
      (fun files (path, ms) => files.add path (.file (documentOf ms))) {}

/-- The registry, which has the release 15.0.0. -/
def busyNetwork : Network where
  routes :=
    [routeTo "http://[::1]/next/15.0.0"
      [("version", .text "15.0.0"), ("peerDependencies", .object [("react", .text "^19.0.0")])],
     routeTo "http://[::1]/react"
      [("versions", .object [("18.2.0", .object []), ("19.0.0", .object [])])]]

/-- A machine with a user at the terminal who agrees to everything, and with a Git that knows of a
file that was changed. -/
def busyMachine : Machine where
  files := busyFiles
  programs :=
    { installed := ["git", "npm", "npx"], rules := [⟨"git", some "status", changedFile⟩] }
  network := busyNetwork
  typed := some ['\r', 'y', 'y']

/-- The environment in which that registry is configured. -/
def busyEnvironment : Environment :=
  ⟨[("npm_config_registry", "http://[::1]")]⟩

/-- The programs of a machine without Git. -/
def withoutGit : Programs :=
  { installed := ["npm", "npx"] }

/-- The other machine has the same programs but for Git, which it does not have. -/
theorem sameBut_withoutGit : busyMachine.programs.SameBut WorkTree.program withoutGit where
  installed other hother := by
    have hgit : other ≠ "git" := hother
    simp [busyMachine, withoutGit, hgit]
  finish c hc := by
    have hgit : "git" ≠ c.program := fun heq => hc heq.symm
    simp [busyMachine, withoutGit, Programs.finish, Rule.fits, hgit]

/-- What came of an exchange that did not fail, in a word or as the command that was run. -/
def deed? : Exchange Request.Reply → Option String
  | ⟨.command c _, .ok _⟩ => some (" ".intercalate (c.program :: c.arguments))
  | ⟨.fetch r, some _⟩ => some r.url
  | ⟨.menu _ _ _, .ok (some _)⟩ => some "codemods chosen"
  | ⟨.confirm _ _, .ok (some _)⟩ => some "question answered"
  | ⟨.write path _, .ok ()⟩ => some path
  | _ => none

/-- An upgrade to its end: codemods are chosen, questions are answered, the manifest is written, and
the packages are installed before the codemod and the recipe are applied. -/
def busyDeeds : List String :=
  ["git rev-parse --is-inside-work-tree", "git status --porcelain",
    "http://[::1]/next/15.0.0", "http://[::1]/react",
    "codemods chosen", "question answered", "question answered", "/app/package.json",
    "npm install --save-exact --silent next@15.0.0 react@19.0.0 react-dom@19.0.0",
    "npx --yes @next/codemod@latest app-dir-runtime-config-experimental-edge /app --force",
    "npx --yes codemod@latest react/19/migration-recipe --no-interactive"]

/-- The session ends well, and every kind of request was answered in it. -/
theorem deeds_busyMachine :
    let job := upgrade "/app" "15.0.0" false busyEnvironment
    (job.run Machine.handler busyMachine).1.isOk = true ∧
      (job.exchanges Machine.handler busyMachine).filterMap deed? = busyDeeds := by
  decide +kernel

/-- The same machine without Git, in an upgrade that does all there is to do. -/
theorem upgrade_sameBesidesGit_withoutGit :
    let job := upgrade "/app" "15.0.0" false busyEnvironment
    let bare := { busyMachine with programs := withoutGit }
    (DifferOnly Request.RunsGit Machine.handler Machine.handler
        (Machine.SameBut WorkTree.program) ∧
      busyMachine.SameBut WorkTree.program bare ∧
      SameBesides GitAside Machine.handler Machine.handler (Machine.SameBut WorkTree.program) job
        busyMachine bare) ∧
    (busyMachine.programs.SameBut WorkTree.program withoutGit ∧
      Machine.SameBesidesGit job busyMachine bare) ∧
    (job.run Machine.handler busyMachine).1.isOk = true ∧
      (job.exchanges Machine.handler busyMachine).filterMap deed? = busyDeeds := by
  have hdiffer := Machine.differOnly_handler WorkTree.program
  have hsame := Machine.sameBut_of_programs sameBut_withoutGit
  obtain ⟨houtsides, hmachines⟩ := upgrade_sameBesidesGit "/app" "15.0.0" false busyEnvironment
  refine ⟨⟨hdiffer, hsame, houtsides _ _ _ hdiffer _ _ hsame⟩, ⟨sameBut_withoutGit, ?_⟩,
    deeds_busyMachine⟩
  exact hmachines _ _ sameBut_withoutGit

-- The registry that is named here is no URL, so the session ends when it reads its settings.
example :
    let job := upgrade "/app" "15.0.0" false ⟨[("npm_config_registry", "registry")]⟩
    let shown (m : Machine) := (job.run Machine.handler m).2.octets.data.toList
    let front := "Upgrading Next.js to '15.0.0'...\n\nChecking project...\n✓ Found package.json\n"
    let warning := "⚠ Warning: Working directory has uncommitted changes\n"
      ++ "  Commit or stash them first so codemod edits are easy to review.\n"
    shown busyMachine = (front ++ warning).toUTF8.data.toList ∧
      shown { busyMachine with programs := withoutGit } = front.toUTF8.data.toList := by
  decide +kernel

end Session

end FrameworkUpgrade
