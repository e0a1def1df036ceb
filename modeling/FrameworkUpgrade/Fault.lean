import FrameworkUpgrade.Json.Reader
import FrameworkUpgrade.Version.Reader
import FrameworkUpgrade.Machine.OsFault

/-!
# `FrameworkUpgrade.Fault`: why an upgrade does not go on

A fault is a cause, not a text. Every stage has a type of its own for what can go
wrong in it, `Fault` joins them, and one function per type gives the wording. A
fault that a stage meets while it serves another is kept inside the fault of that
other stage: a revision that cannot be resolved holds the fault of the registry,
a peer that cannot be resolved holds its own.

Every type has a constructor `reported` for a collaborator that says no more than
a sentence.
-/

set_option autoImplicit false

namespace FrameworkUpgrade

/-- Why the project directory or its settings are refused. -/
inductive ProjectFault where
  | unreachable (path : String) (cause : OsFault)
  | notADirectory (path : String)
  | systemDirectory (directory : String)
  | noManifest (path : String)
  | invalidRegistry (url : String)
  | unsupportedScheme (scheme : String)
  | relativeRepository
  | repositoryNotADirectory (path : String)
  | gitNotRun (arguments : String) (cause : OsFault)
  | gitFailed (command errors : String)
deriving DecidableEq, Repr

/-- The wording of a project fault. -/
def ProjectFault.message : ProjectFault → String
  | .unreachable path cause => s!"Invalid path '{path}': {cause.message}"
  | .notADirectory path => s!"Path '{path}' is not a directory"
  | .systemDirectory directory => s!"Access to system directory '{directory}' is not allowed"
  | .noManifest path => s!"package.json not found in '{path}'"
  | .invalidRegistry url => s!"Invalid registry URL: {url}"
  | .unsupportedScheme scheme => s!"Unsupported registry scheme: {scheme}"
  | .relativeRepository => "Only absolute paths are allowed for Git operations"
  | .repositoryNotADirectory path => s!"'{path}' is not a directory"
  | .gitNotRun arguments cause => s!"Failed to execute git command '{arguments}': {cause.message}"
  | .gitFailed command errors => s!"{command} failed: {errors}"

/-- Why a text is no manifest. -/
inductive ManifestTextFault where
  | json (fault : Json.Fault)
  | notAnObject
deriving DecidableEq, Repr

/-- Why the manifest is not read or written. -/
inductive ManifestFault where
  | notAnObject
  | unreadable (path : String) (cause : OsFault)
  | unparsable (path : String) (cause : ManifestTextFault)
  | unwritable (path : String) (cause : OsFault)
  | reported (text : String)
deriving DecidableEq, Repr

/-- The wording for a manifest that is no JSON object. -/
def ManifestFault.objectWanted : String := "package.json must contain a JSON object"

/-- The wording of a manifest fault. -/
def ManifestFault.message : ManifestFault → String
  | .notAnObject => objectWanted
  | .unreadable path cause => s!"Failed to read {path}: {cause.message}"
  | .unparsable path (.json fault) => s!"Failed to parse {path}: {fault.message}"
  | .unparsable path .notAnObject => s!"Failed to parse {path}: Manifest error: {objectWanted}"
  | .unwritable path cause => s!"Failed to write {path}: {cause.message}"
  | .reported text => text

/-- Why a request gets no response. -/
inductive TransportFault where
  | noUrl
  | wrongUrl (url : String)
  | notSent (url : String)
  | tooManyRedirects (url : String)
deriving DecidableEq, Repr

/-- The wording of a transport fault. -/
def TransportFault.message : TransportFault → String
  | .noUrl => "builder error"
  | .wrongUrl url => s!"builder error for url ({url})"
  | .notSent url => s!"error sending request for url ({url})"
  | .tooManyRedirects url => s!"error following redirect for url ({url})"

/-- Why a registry gives no answer. -/
inductive RegistryFault where
  | requestFailed (url : String) (cause : TransportFault)
  | status (code : Nat) (phrase url : String)
  | tooLarge (url : String) (limit : Nat)
  | bodyCut (url : String)
  | malformed (fault : Json.Fault)
  | reported (text : String)
deriving DecidableEq, Repr

/-- The wording of a registry fault. -/
def RegistryFault.message : RegistryFault → String
  | .requestFailed url cause => s!"Request to {url} failed: {cause.message}"
  | .status code phrase url => s!"HTTP {code} {phrase}: {url}"
  | .tooLarge url limit => s!"Registry response from {url} exceeded {limit} bytes"
  | .bodyCut url => s!"Failed to read {url}: request or response body error"
  | .malformed fault => s!"Malformed registry response: {fault.message}"
  | .reported text => text

/-- Why a list of codemods is no catalog. -/
inductive CatalogFault where
  | duplicate (id : String)
  | invalidVersion (id version : String) (fault : Version.Fault)
  | outOfOrder (id : String) (version : Version) (previousId : String) (previous : Version)
deriving DecidableEq, Repr

/-- The wording of a catalog fault. -/
def CatalogFault.message : CatalogFault → String
  | .duplicate id => s!"duplicate codemod id '{id}'"
  | .invalidVersion id version fault =>
    s!"codemod '{id}' has invalid version '{version}': {fault.message}"
  | .outOfOrder id version previousId previous =>
    s!"codemod '{id}' ({version}) is listed after '{previousId}' ({previous})"

/-- Why the installed version of a package is not known. -/
inductive InstalledFault where
  | missing (package : String)
  | unreadable (path : String) (cause : OsFault)
  | unparsable (path : String) (fault : Json.Fault)
  | noVersion (path : String)
  | invalidVersion (package version : String) (fault : Version.Fault)
  | notAVersion (fault : Version.Fault)
deriving DecidableEq, Repr

/-- The wording of an installed fault. -/
def InstalledFault.message : InstalledFault → String
  | .missing package => s!"{package} is not installed"
  | .unreadable path cause => s!"failed to read {path}: {cause.message}"
  | .unparsable path fault => s!"failed to parse {path}: {fault.message}"
  | .noVersion path => s!"{path} has no version"
  | .invalidVersion package version fault =>
    s!"{package} has invalid version '{version}': {fault.message}"
  | .notAVersion fault => fault.message

/-- How a program that ran has ended. -/
inductive Ending where
  | exitCode (code : Nat)
  | signal
deriving DecidableEq, Repr

/-- Whether a program has ended well. -/
def Ending.isSuccess : Ending → Bool
  | .exitCode code => code == 0
  | .signal => false

/-- The wording of an ending. -/
def Ending.message : Ending → String
  | .exitCode code => s!"exit code {code}"
  | .signal => "a signal"

/-- Why a command did not do its work. -/
inductive CommandFault where
  | notStarted (program : String) (cause : OsFault)
  | failed (program : String) (ending : Ending) (errors : String)
  | reported (text : String)
deriving DecidableEq, Repr

/-- The wording of a command fault. -/
def CommandFault.message : CommandFault → String
  | .notStarted program cause => s!"failed to spawn '{program}': {cause.message}"
  | .failed program ending errors =>
    if errors.isEmpty then s!"'{program}' failed with {ending.message}"
    else s!"'{program}' failed with {ending.message}: {errors}"
  | .reported text => text

mutual

/-- Why an upgrade, or a part of it, does not go on. -/
inductive Fault where
  | revision (token : String) (cause : RevisionFault)
  | noMatch (package query : String)
  | installed (path : String) (cause : InstalledFault)
  | peer (package : String) (cause : Fault)
  | install (cause : CommandFault)
  | codemod (id : String) (cause : CommandFault)
  | project (cause : ProjectFault)
  | manifest (cause : ManifestFault)
  | registry (cause : RegistryFault)
  | catalog (cause : CatalogFault)
  | cancelled
  | os (cause : OsFault)
  | json (cause : Json.Fault)

/-- Why a revision names no release. -/
inductive RevisionFault where
  | notAQuery
  | notAVersion (fault : Version.Fault)
  | unresolved (cause : Fault)
  | noRelease
  | noVersion
  | invalidVersion (version : String) (fault : Version.Fault)
  | noPeers

end

mutual

/-- The wording of a fault. -/
def Fault.message : Fault → String
  | .revision token cause =>
    s!"Invalid revision provided: \"{token}\" ({cause.message}). Please provide a valid Next.js "
      ++ "version or dist-tag (e.g. \"latest\", \"canary\", \"rc\", or \"15.0.0\")"
  | .noMatch package query => s!"No published version of {package} matches \"{query}\""
  | .installed path cause =>
    s!"Failed to get the installed Next.js version at \"{path}\": {cause.message}. If you're "
      ++ "using a monorepo, run this command from the Next.js app directory"
  | .peer package cause =>
    s!"Failed to resolve a compatible version for {package}: {cause.message}"
  | .install cause => s!"Installing packages failed: {cause.message}"
  | .codemod id cause => s!"Codemod {id} failed: {cause.message}"
  | .project cause => s!"Project validation failed: {cause.message}"
  | .manifest cause => s!"Manifest error: {cause.message}"
  | .registry cause => s!"Registry request failed: {cause.message}"
  | .catalog cause => s!"Invalid codemod catalog: {cause.message}"
  | .cancelled => "Upgrade cancelled by user"
  | .os cause => s!"IO error: {cause.message}"
  | .json cause => s!"JSON error: {cause.message}"

/-- The wording of a revision fault. -/
def RevisionFault.message : RevisionFault → String
  | .notAQuery => "not a version, dist-tag or range"
  | .notAVersion fault => fault.message
  | .unresolved cause => cause.message
  | .noRelease => "no matching release on the registry"
  | .noVersion => "release metadata has no version"
  | .invalidVersion version fault =>
    s!"registry returned invalid version '{version}': {fault.message}"
  | .noPeers => "release metadata has no peerDependencies"

end

end FrameworkUpgrade
