import FrameworkUpgrade.Proofs.Codemod.Window
import FrameworkUpgrade.Proofs.Session.Jobs
import FrameworkUpgrade.Proofs.Upgrade.Confinement

/-!
# `FrameworkUpgrade.Proofs.Session.Confinement`: a registry does not steer a session

What a session asks of the machine depends on what a registry sends. Of its documents only what the
parsers make of them counts, but a response may also name a place, and the session looks there.
`confinement_upgrade` says what may be asked, for every path, revision and environment and whatever
the machine replies, so for every content of every response:

* the documents that are asked for are those of `next`, React and the types under the configured
  registry, and those of single releases of `next` under a key (`Registry.IsDocumentUrl`);
* what is fetched is such a document, or where the response to the request just before sends on,
  ten times in a row at most (`Registry.Reached`); where no response names a place, it is always
  such a document;
* the arguments of an installation are the flags of the package manager and specifiers
  (`Command.IsInstall`);
* the arguments of a codemod or a recipe are constants, identifiers of the shipped codemods and
  the path of the project (`Command.IsLaunch`).

So a registry does steer requests: `requests_diverted` is a session that one response sends to
another host.

The registry that is configured is known to the session only after it has found the project and
read its settings. Until then it fetches nothing and runs nothing but questions to Git.
-/

set_option autoImplicit false

namespace FrameworkUpgrade

open Dialogue

/-! ### Documents and commands -/

/-- The URL of a document that an upgrade asks a registry for. -/
def Registry.IsDocumentUrl (base url : String) : Prop :=
  url ∈ [base ++ "/next", base ++ "/react", base ++ "/@types%2Freact",
      base ++ "/@types%2Freact-dom"] ∨
    ∃ key, IsKey key ∧ url = base ++ "/next/" ++ key

/-- The constants among the arguments of codemods and recipes. -/
def PackageManager.launchConstants (m : PackageManager) : List String :=
  m.launcher.2 ++ [Commands.codemodPackage, "--force", "--verbose"]
    ++ Commands.recipeArguments .migration ++ Commands.recipeArguments .types

namespace Command

/-- An installation in a project, with flags of the package manager and specifiers. -/
structure IsInstall (m : PackageManager) (project : String) (c : Command) : Prop where
  program : c.program = m.program
  directory : c.directory = project
  arguments : ∀ a ∈ c.arguments,
    (∃ dev silent, a ∈ m.installArguments dev silent) ∨ IsSpecifier a

/-- A codemod or a recipe that is applied to a project. -/
structure IsLaunch (m : PackageManager) (project : String) (c : Command) : Prop where
  program : c.program = m.launcher.1
  directory : c.directory = project
  arguments : ∀ a ∈ c.arguments,
    a ∈ m.launchConstants ∨ a ∈ Catalog.builtinEntries.map CodemodEntry.id ∨ a = project

end Command

/-- A request that a session may make behind some exchanges, when it knows the settings of its
project. What it fetches is a document of the registry, or where the responses to the request for
one have sent it on to, over so many redirects at most. -/
def Request.KeepsTo (settings : Settings) (project : String) (redirects : Nat)
    (past : List (Exchange Request.Reply)) : Request → Prop
  | .fetch r => ∃ url accept u, ∃ n ≤ redirects,
      Registry.IsDocumentUrl settings.registry url ∧ Registry.Reached url accept n past u ∧
        r = Registry.requestFor u accept
  | .command c _ => c.IsQuestion ∨ c.IsInstall settings.manager project ∨
      c.IsLaunch settings.manager project
  | _ => True

section KeepsTo

variable {r : Request} {redirects : Nat} {past : List (Exchange Request.Reply)}

/-- What is local keeps to all settings. -/
theorem Request.IsLocal.keepsTo (h : r.IsLocal) (settings : Settings) (project : String) :
    r.KeepsTo settings project redirects past := by
  cases r with
  | fetch => cases h
  | command => exact .inl h
  | _ => trivial

/-- What is internal keeps to all settings. -/
theorem Request.IsInternal.keepsTo (h : r.IsInternal) (settings : Settings) (project : String) :
    r.KeepsTo settings project redirects past :=
  h.isLocal.keepsTo settings project

/-- The requests for a document keep to the limit on redirects. -/
theorem Request.Fetches.keepsTo {url : String} (h : r.Fetches url past) {settings : Settings}
    (hurl : Registry.IsDocumentUrl settings.registry url) (project : String) :
    r.KeepsTo settings project Registry.maxRedirects past := by
  cases r with
  | fetch r =>
    obtain ⟨accept, u, n, hn, hreached, hr⟩ := h
    exact ⟨url, accept, u, n, hn, hurl, hreached, hr⟩
  | _ => cases h

/-- An installation and a launch keep to the settings that they are made of. -/
theorem Request.Executes.keepsTo {c : Command} (h : r.Executes c) {settings : Settings}
    {project : String}
    (hc : c.IsInstall settings.manager project ∨ c.IsLaunch settings.manager project) :
    r.KeepsTo settings project redirects past := by
  cases r with
  | command c' output =>
    obtain rfl : c' = c := h
    exact .inr hc
  | _ => cases h

/-- A fetch whose response may send on: it has such a status and names a place. -/
def Exchange.SendsOn : Exchange Request.Reply → Prop
  | ⟨.fetch _, some response⟩ =>
    response.status ∈ Registry.redirectStatuses ∧ response.location ≠ none
  | _ => False

/-- Where a response leads to another URL, it is one that may send on. -/
theorem Registry.sendsOn_of_sentOn? {u next : Url} {response : HttpResponse}
    (h : Registry.sentOn? u response = some next) (request : HttpRequest) :
    Exchange.SendsOn ⟨.fetch request, some response⟩ := by
  unfold Registry.sentOn? at h
  split at h
  · rename_i hstatus
    refine ⟨List.contains_iff_mem.mp hstatus, fun hnone => ?_⟩
    rw [hnone] at h
    cases h
  · cases h

/-- A request that keeps to the settings is for a document of the registry itself, as long as no
response may send on. -/
theorem Request.KeepsTo.direct {settings : Settings} {project : String}
    (h : r.KeepsTo settings project redirects past) (hpast : ∀ x ∈ past, ¬ x.SendsOn) :
    r.KeepsTo settings project 0 past := by
  cases r with
  | fetch r =>
    obtain ⟨url, accept, u, n, -, hurl, hreached, hr⟩ := h
    cases hreached with
    | asked hu => exact ⟨url, accept, u, 0, Nat.le_refl 0, hurl, .asked hu, hr⟩
    | @sentOn _ _ v _ _ _ hnext =>
      have hsends := Registry.sendsOn_of_sentOn? hnext (Registry.requestFor v accept)
      exact absurd hsends (hpast _ (List.mem_append_right _ List.mem_cons_self))
  | _ => exact h

end KeepsTo

/-! ### The registry -/

/-- The base of a registry that was checked has no slash at its end to lose. -/
theorem Settings.ofBase_checkRegistry {raw registry : String}
    (h : Settings.checkRegistry raw = .ok registry) :
    (Registry.ofBase registry).base = registry := by
  unfold Settings.checkRegistry at h
  split at h
  · cases h
  · split at h
    · cases h
      rw [Registry.ofBase, String.toList_ofList, Text.dropEndWhile_dropEndWhile]
    · cases h

/-- The registry among the settings of a project was checked, so its base is the text itself. -/
theorem Settings.ofBase_of_course {e : Environment} {project : String}
    {es : List (Exchange Request.Reply)} {settings : Settings}
    (h : (Settings.ofProject e project).Course es (.ok settings)) :
    (Registry.ofBase settings.registry).base = settings.registry := by
  obtain ⟨raw, _, _, _, _, h₁⟩ := (course_bind_ok _ _ _ _).mp h
  split at h₁
  · obtain ⟨_, ⟨⟩⟩ := (course_fail _ _ _).mp h₁
  · rename_i registry hcheck
    obtain ⟨manager, _, _, _, _, h₂⟩ := (course_bind_ok _ _ _ _).mp h₁
    obtain ⟨_, ⟨⟩⟩ := (course_pure _ _ _).mp h₂
    exact Settings.ofBase_checkRegistry hcheck

/-! ### Calls that are carried out -/

namespace Session

/-- The command of an installation is one, if it is given specifiers. -/
theorem isInstall_installCommand {m : PackageManager} {project : String}
    {specifiers : List String} (h : ∀ a ∈ specifiers, IsSpecifier a) (dev silent : Bool) :
    (Commands.installCommand m project specifiers dev silent).IsInstall m project where
  program := rfl
  directory := rfl
  arguments := by
    intro a ha
    rcases List.mem_append.mp ha with ha | ha
    · exact .inl ⟨dev, silent, ha⟩
    · exact .inr (h a ha)

/-- What a launcher is given are its own constants and the arguments. -/
theorem isLaunch_launch {m : PackageManager} {project : String} {arguments : List String}
    (h : ∀ a ∈ arguments,
      a ∈ m.launchConstants ∨ a ∈ Catalog.builtinEntries.map CodemodEntry.id ∨ a = project) :
    (Commands.launch m project arguments).IsLaunch m project where
  program := rfl
  directory := rfl
  arguments := by
    intro a ha
    rcases List.mem_append.mp ha with ha | ha
    · exact .inl (by simp [PackageManager.launchConstants, ha])
    · exact h a ha

/-- The command of a codemod is a launch, if the codemod is a shipped one. -/
theorem isLaunch_transform {m : PackageManager} {project id : String}
    (hid : id ∈ Catalog.builtinEntries.map CodemodEntry.id) (force verbose : Bool) :
    (Commands.launch m project (Commands.transformArguments id project force verbose)).IsLaunch m
      project := by
  refine isLaunch_launch fun a ha => ?_
  have hconstant (b : String) (hb : b ∈ [Commands.codemodPackage, "--force", "--verbose"]) :
      b ∈ m.launchConstants :=
    List.mem_append_left _ (List.mem_append_left _ (List.mem_append_right _ hb))
  simp only [Commands.transformArguments, List.mem_append, List.mem_cons, List.not_mem_nil,
    or_false] at ha
  -- The arguments are three fixed ones, and two that stand for the options.
  rcases ha with ((rfl | rfl | rfl) | hforce) | hverbose
  · exact .inl (hconstant _ (by decide))
  · exact .inr (.inl hid)
  · exact .inr (.inr rfl)
  · split at hforce
    · rw [List.mem_singleton.mp hforce]
      exact .inl (hconstant _ (by decide))
    · cases hforce
  · split at hverbose
    · rw [List.mem_singleton.mp hverbose]
      exact .inl (hconstant _ (by decide))
    · cases hverbose

/-- The command of a recipe is a launch, and all its arguments are constants. -/
theorem isLaunch_recipe (m : PackageManager) (project : String) (r : Recipe) :
    (Commands.launch m project (Commands.recipeArguments r)).IsLaunch m project := by
  refine isLaunch_launch fun a ha => .inl ?_
  cases r with
  | migration => exact List.mem_append_left _ (List.mem_append_right _ ha)
  | types => exact List.mem_append_right _ ha

section Registry

variable {s : Session}
  (hbase : (Registry.ofBase s.settings.registry).base = s.settings.registry)
include hbase

/-- The document of a package is under the registry at the escaped name. -/
theorem packageUrl_eq {package segment : String}
    (hsegment : "/" ++ Registry.escapedName package = segment) :
    s.registry.packageUrl package = s.settings.registry ++ segment := by
  show (Registry.ofBase s.settings.registry).base ++ "/" ++ Registry.escapedName package = _
  rw [hbase, String.append_assoc, hsegment]

/-- The documents of the four packages are under URLs of the registry. -/
theorem isDocumentUrl_packageUrl {package : String}
    (h : package ∈ [frameworkPackage, reactPackage, reactTypes, reactDomTypes]) :
    Registry.IsDocumentUrl s.settings.registry (s.registry.packageUrl package) := by
  refine .inl ?_
  simp only [List.mem_cons, List.not_mem_nil, or_false] at h ⊢
  rcases h with rfl | rfl | rfl | rfl
  · exact .inl (packageUrl_eq hbase (by decide))
  · exact .inr (.inl (packageUrl_eq hbase (by decide)))
  · exact .inr (.inr (.inl (packageUrl_eq hbase (by decide))))
  · exact .inr (.inr (.inr (packageUrl_eq hbase (by decide))))

/-- The document of a release with a proper key is under the registry. -/
theorem isDocumentUrl_releaseUrl {key : String} (h : IsKey key) :
    Registry.IsDocumentUrl s.settings.registry (s.registry.releaseUrl frameworkPackage key) := by
  have hpackage : s.registry.packageUrl frameworkPackage = s.settings.registry ++ "/next" :=
    packageUrl_eq hbase (by decide)
  refine .inr ⟨key, h, ?_⟩
  show s.registry.packageUrl frameworkPackage ++ "/" ++ key = _
  have hslash : s.settings.registry ++ "/next" ++ "/" = s.settings.registry ++ "/next/" := by
    rw [String.append_assoc]
    rfl
  rw [hpackage, hslash]

/-- A confined call is carried out by requests that keep to the settings. -/
theorem asks_carryOut {x : Context} (hdirectory : x.directory = s.project.directory)
    (hcatalog : x.catalog.codemods.map Codemod.id = Catalog.builtinEntries.map CodemodEntry.id)
    {c : Call} (hc : c.Confined x) (past : List (Exchange Request.Reply)) :
    (s.carryOut c).AsksAfter
      (Request.KeepsTo s.settings s.project.directory Registry.maxRedirects) past := by
  refine (asks_carryOut_makes s c past).mono fun past r hr => ?_
  -- What a call may be about is what its confinement says.
  cases c with
  | release package key =>
    obtain ⟨rfl, hkey⟩ := hc
    exact Request.Fetches.keepsTo hr (isDocumentUrl_releaseUrl hbase hkey) _
  | published package => exact Request.Fetches.keepsTo hr (isDocumentUrl_packageUrl hbase hc) _
  | install specifiers dev silent =>
    exact Request.Executes.keepsTo hr (.inl (isInstall_installCommand hc dev silent))
  | transform id directory force verbose =>
    obtain ⟨hid, rfl⟩ := hc
    rw [hcatalog] at hid
    rw [hdirectory] at hr
    exact Request.Executes.keepsTo hr (.inr (isLaunch_transform hid _ _))
  | recipe r directory =>
    obtain rfl := hc
    rw [hdirectory] at hr
    exact Request.Executes.keepsTo hr (.inr (isLaunch_recipe _ _ r))
  | installed | readManifest | writeManifest | select | confirm =>
    exact Request.IsInternal.keepsTo hr _ _

end Registry

/-! ### A whole session -/

/-- What the requests of a session keep to. Either they stay on the machine, or the session has
found its project and read its settings, and they keep to these with so many redirects at most. -/
inductive Confinement (redirects : Nat) (path : String) (e : Environment)
    (es : List (Exchange Request.Reply)) : Prop where
  | early (h : ∀ x ∈ es, x.call.IsLocal)
  | configured (project : String) (settings : Settings)
      (found : (⟨.canonical path, .ok project⟩ : Exchange Request.Reply) ∈ es)
      (read : ∃ asked, asked <:+: es ∧ (Settings.ofProject e project).Course asked (.ok settings))
      (requests : ∀ front x back, es = front ++ x :: back →
        x.call.KeepsTo settings project redirects front)

/-- Without a response that may send on, there are no redirects. -/
theorem Confinement.direct {redirects : Nat} {path : String} {e : Environment}
    {es : List (Exchange Request.Reply)} (h : Confinement redirects path e es)
    (hes : ∀ x ∈ es, ¬ x.SendsOn) : Confinement 0 path e es := by
  cases h with
  | early h => exact .early h
  | configured project settings found read requests =>
    refine .configured project settings found read fun front x back heq => ?_
    refine (requests front x back heq).direct fun y hy => hes y ?_
    exact heq ▸ List.mem_append_left _ hy

/-- A session that knows the settings makes only requests that keep to them. -/
theorem asks_upgrading {project : Project} {settings : Settings}
    (hbase : (Registry.ofBase settings.registry).base = settings.registry) (revision : String)
    (verbose : Bool) (e : Environment) (past : List (Exchange Request.Reply)) :
    (proceed project settings revision verbose e).AsksAfter
      (Request.KeepsTo settings project.directory Registry.maxRedirects) past := by
  refine asks_proceed (fun _ _ hr => hr.keepsTo _ _) _ _ _ _ _ (fun catalog prompts hbuiltin => ?_)
    past
  have hids := Catalog.ids_ofEntries hbuiltin
  let session : Session := { project, settings, verbose }
  let context : Context := { catalog, directory := project.directory, verbose, prompts }
  have hcarry (c : Call) (hc : c.Confined context) (past : List (Exchange Request.Reply)) :
      (session.carryOut c).AsksAfter
        (Request.KeepsTo settings project.directory Registry.maxRedirects) past :=
    asks_carryOut (s := session) (x := context) hbase rfl hids hc past
  exact (Upgrade.asks_run revision).interpretAfter hcarry

/-- Whatever the machine replies, the requests of a session are confined. -/
theorem confinement_of_course {path revision : String} {verbose : Bool} {e : Environment}
    {es : List (Exchange Request.Reply)} {r : Except Fault Unit}
    (h : (Session.upgrade path revision verbose e).Course es r) :
    Confinement Registry.maxRedirects path e es := by
  unfold Session.upgrade at h
  rw [course_line_bind, course_line_bind] at h
  rcases (course_bind _ _ _ _).mp h with ⟨project, finding, es₁, rfl, hfind, h₁⟩ | ⟨_, _, hfail⟩
  -- The course is taken apart up to the settings; whatever fails before them is local.
  · have hfinding : ∀ x ∈ finding, x.call.IsLocal :=
      fun x hx => ((Project.asks_find path).of_course hfind x hx).isLocal
    rw [course_line_bind] at h₁
    rcases (course_bind _ _ _ _).mp h₁ with ⟨_, showing, es₂, rfl, hshow, h₂⟩ | ⟨_, _, hfail⟩
    · have hshowing := (asks_showWorkTree _).of_course hshow
      rcases (course_bind _ _ _ _).mp h₂ with
        ⟨settings, asked, es₃, rfl, hread, h₃⟩ | ⟨_, _, hfail⟩
      · have hasked : ∀ x ∈ asked, x.call.IsLocal :=
          fun x hx => ((Settings.asks_ofProject e _).of_course hread x hx).isLocal
        have hbase := Settings.ofBase_of_course hread
        have hlocal {es : List (Exchange Request.Reply)} (h : ∀ x ∈ es, x.call.IsLocal) :=
          told_of_forall (p := Request.KeepsTo settings project.directory Registry.maxRedirects)
            (fun _ _ hr => Request.IsLocal.keepsTo hr _ _) h
        -- From here on the settings are known, and what came before keeps to them too.
        have htold : Told (Request.KeepsTo settings project.directory Registry.maxRedirects) []
            (finding ++ (showing ++ (asked ++ es₃))) := by
          refine (told_append _ _ _).mpr ⟨hlocal hfinding _, (told_append _ _ _).mpr ?_⟩
          refine ⟨hlocal hshowing _, (told_append _ _ _).mpr ⟨hlocal hasked _, ?_⟩⟩
          exact (asks_upgrading hbase revision verbose e _).told h₃
        refine .configured project.directory settings ?_ ⟨asked, ?_, hread⟩ ?_
        · exact List.mem_append_left _ (Project.course_find_ok hfind)
        · exact ⟨finding ++ showing, es₃, by simp only [List.append_assoc]⟩
        · intro front x back heq
          rw [heq] at htold
          exact htold.of_append_cons
      · have hasking : ∀ x ∈ es₂, x.call.IsLocal :=
          fun x hx => ((Settings.asks_ofProject e _).of_course hfail x hx).isLocal
        have hlater := List.forall_mem_append.mpr ⟨hshowing, hasking⟩
        exact .early (List.forall_mem_append.mpr ⟨hfinding, hlater⟩)
    · exact .early (List.forall_mem_append.mpr ⟨hfinding, (asks_showWorkTree _).of_course hfail⟩)
  · refine .early fun x hx => ?_
    exact ((Project.asks_find path).of_course hfail x hx).isLocal

/-- Whatever a machine answers, and so for every content of every response of a registry, the
requests of a session are confined, with no more redirects than the limit. Where a request is sent
on at all, a response has named the place. -/
theorem confinement_upgrade {σ : Type} (h : Handler Request.Reply σ) (state : σ)
    (path revision : String) (verbose : Bool) (e : Environment) :
    Confinement Registry.maxRedirects path e
        ((upgrade path revision verbose e).exchanges h state) ∧
      (Confinement 0 path e ((upgrade path revision verbose e).exchanges h state) ∨
        ∃ x ∈ (upgrade path revision verbose e).exchanges h state, x.SendsOn) := by
  have hconfined := confinement_of_course (course_run h (upgrade path revision verbose e) state)
  refine ⟨hconfined, ?_⟩
  by_cases hsends : ∃ x ∈ (upgrade path revision verbose e).exchanges h state, x.SendsOn
  · exact .inr hsends
  · exact .inl (hconfined.direct fun x hx hx' => hsends ⟨x, hx, hx'⟩)

/-! ### A registry that sends on -/

/-- The URL that an exchange fetches. -/
def fetchedUrl? : Exchange Request.Reply → Option String
  | ⟨.fetch r, _⟩ => some r.url
  | _ => none

/-- An outside with a project in `/app` and a registry that looks for the latest release on another
host. -/
def diverting : Handler Request.Reply Unit where
  answer
    | .canonical path, s => (.ok path, s)
    | .kind path, s =>
      (if path = "/app" then some .directory
        else if path = "/app/package.json" then some .file else none, s)
    | .fetch r, s =>
      (if r.url = "http://[::1]/next/latest" then
          some { status := 302, location := some "http://[::2]/", declared := 0, body := .empty }
        else none, s)
    | .command _ _, s => (.error .notFound, s)
    | .read _, s => (.error .notFound, s)
    | .write _ _, s => (.error .notPermitted, s)
    | .hasTerminal, s => (false, s)
    | .confirm _ _, s => (.error .noTerminal, s)
    | .menu _ _ _, s => (.error .noTerminal, s)
  display _ s := s

/-- The environment in which that registry is configured. -/
def divertedEnvironment : Environment :=
  ⟨[("npm_config_registry", "http://[::1]")]⟩

/-- No document of a registry stands on another host. -/
theorem not_isDocumentUrl_diverted :
    ¬ Registry.IsDocumentUrl "http://[::1]" "http://[::2]/" := by
  rintro (hfixed | ⟨key, -, heq⟩)
  · revert hfixed
    decide
  · have hfront := congrArg (fun text : String => text.toList.take 11) heq
    simp [String.toList_append] at hfront

/-- A response sends the session to a URL that is no document of the configured registry. -/
theorem requests_diverted :
    ((Settings.ofProject divertedEnvironment "/app").run diverting ()).1.toOption.map
        Settings.registry = some "http://[::1]" ∧
      ((upgrade "/app" "latest" false divertedEnvironment).exchanges diverting ()).filterMap
        fetchedUrl? = ["http://[::1]/next/latest", "http://[::2]/"] ∧
      ¬ Registry.IsDocumentUrl "http://[::1]" "http://[::2]/" := by
  refine ⟨by decide +kernel, ?_, not_isDocumentUrl_diverted⟩
  decide +kernel

end Session

end FrameworkUpgrade
