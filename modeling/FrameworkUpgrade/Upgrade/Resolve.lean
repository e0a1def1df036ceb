import FrameworkUpgrade.Upgrade.Call

/-!
# `FrameworkUpgrade.Upgrade.Resolve`: from what is asked to what is published

A revision names the release to upgrade to. An exact version and a dist-tag are
the key of its document; a range first becomes the highest published version that
it holds of. Every fault on the way is a fault of the revision.

A peer is a package with a query. It becomes a pin, the package with the version
that the query selects. Peers are independent of one another, the pins keep their
order, and one that does not resolve fails them all.
-/

set_option autoImplicit false

namespace FrameworkUpgrade

/-- The release to upgrade to. -/
structure Target where
  version : Version
  peers : Table
  dev : Table
deriving DecidableEq, Repr

/-- A package that is wanted at a version that a query selects. -/
structure Wanted where
  package : String
  query : String
deriving DecidableEq, Repr

/-- A package at a version. -/
structure Pin where
  package : String
  version : Version
deriving DecidableEq, Repr

/-- A pin as the installer takes it. -/
def Pin.specifier (p : Pin) : String :=
  s!"{p.package}@{p.version}"

/-- The target that the document of a release describes. -/
def Release.target? (r : Release) : Except RevisionFault Target :=
  match r.version with
  | none => .error .noVersion
  | some raw =>
    match Version.parse raw with
    | .error fault => .error (.invalidVersion raw fault)
    | .ok version =>
      match r.peers with
      | none => .error .noPeers
      | some peers => .ok { version, peers, dev := r.dev }

namespace Resolve

/-- The version that a query selects from what a package has published, if it has
published anything. -/
def selected (package query : String) (q : Query) : Option Published → Except Fault Version
  | none => .error (.noMatch package query)
  | some published =>
    match published.pick? q with
    | some v => .ok v
    | none => .error (.noMatch package query)

/-- The version that a query selects for a package. -/
def highest (package query : String) : Script Version :=
  match Query.parse? query with
  | none => .fail (.noMatch package query)
  | some q => do
    let reply ← Script.call (.published package)
    Dialogue.demand (reply >>= selected package query q)

/-- The fault of a revision that another fault keeps from a release. -/
def unresolved (token : String) (cause : Fault) : Fault :=
  .revision token (.unresolved cause)

/-- The key of the document that a query names. -/
def releaseKey (package token : String) : Query → Script String
  | .exact v => .done v.text
  | .tag name => .done name
  | .range _ => do
    let v ← (highest package token).mapFault (unresolved token)
    return v.text

/-- The target in the answer of a registry. -/
def targetOf (token : String) : Except Fault (Option Release) → Except Fault Target
  | .error cause => .error (unresolved token cause)
  | .ok none => .error (.revision token .noRelease)
  | .ok (some r) =>
    match r.target? with
    | .error cause => .error (.revision token cause)
    | .ok target => .ok target

/-- The release of a package that a revision names. -/
def target (package token : String) : Script Target :=
  match Query.parse? token with
  | none => .fail (.revision token .notAQuery)
  | some q => do
    let key ← releaseKey package token q
    let reply ← Script.call (.release package key)
    Dialogue.demand (targetOf token reply)

/-- The pin of a wanted package. -/
def peer (w : Wanted) : Script Pin := do
  let version ← (highest w.package w.query).mapFault (.peer w.package)
  return ⟨w.package, version⟩

/-- The pins of wanted packages, in the same order. -/
def peers : List Wanted → Script (List Pin)
  | [] => .done []
  | w :: ws => do
    let p ← peer w
    let ps ← peers ws
    return p :: ps

end Resolve

end FrameworkUpgrade
