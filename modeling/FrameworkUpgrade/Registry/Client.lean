import FrameworkUpgrade.Machine.Request
import FrameworkUpgrade.Registry.Document
import FrameworkUpgrade.Registry.Status
import FrameworkUpgrade.Url.Reference

/-!
# `FrameworkUpgrade.Registry.Client`: asking a registry over the network

A registry has a base, and the documents of a package stand under the name of the
package behind it, where the slash of a scoped name is escaped. A response may send
on to another URL, of the registry or of any other host. It is followed there, up to
`maxRedirects` times, and what counts is the response at the end. A document that is
not there is no fault. Any other response must have a status of success, and its
body must not be larger than `maxBodySize`, neither by what it declares nor by what
arrives.
-/

set_option autoImplicit false

namespace FrameworkUpgrade

/-- A registry on the network: the text that all its URLs start with. -/
structure Registry where
  base : String
deriving DecidableEq, Repr

namespace Registry

/-- The octets that the body of a response may have. -/
def maxBodySize : Nat := 64 * 1024 * 1024

/-- How the program names itself. -/
def agent : String := "next-upgrade/0.1.0"

/-- The forms of document that are wanted where any will do. -/
def anyForm : String := "*/*"

/-- The forms of document that are wanted where a short one will do. -/
def shortForm : String :=
  "application/vnd.npm.install-v1+json; q=1.0, application/json; q=0.8, */*"

/-- The registry of a base. Slashes at the end of it do not count. -/
def ofBase (base : String) : Registry :=
  ⟨String.ofList (Text.dropEndWhile (· == '/') base.toList)⟩

/-- The name of a package with its slashes escaped. -/
def escapedName (package : String) : String :=
  String.ofList (package.toList.flatMap fun c => if c = '/' then ['%', '2', 'F'] else [c])

/-- The URL of what a package has published. -/
def packageUrl (r : Registry) (package : String) : String :=
  s!"{r.base}/{escapedName package}"

/-- The URL of a release. -/
def releaseUrl (r : Registry) (package key : String) : String :=
  s!"{r.packageUrl package}/{key}"

/-! ### Requests -/

/-- A character that the host of a request may hold. -/
def isHostCharacter (c : Char) : Bool :=
  c.isAlphanum || "!$&'()*+,-.:;=[]_~".toList.contains c

/-- The characters that the URL of a request may have. -/
def maxUrlLength : Nat := 65534

/-- Whether a URL can stand in a request. -/
def isWritable (u : Url) : Bool :=
  u.hostText.all isHostCharacter && u.text.length ≤ maxUrlLength

/-- Whether a request can be made for a URL. -/
def isRequestable (u : Url) : Bool :=
  u.isWeb && isWritable u

/-- The request for the document under a URL. -/
def requestFor (u : Url) (accept : String) : HttpRequest :=
  { url := String.ofList u.resource, accept, agent }

/-- The URL that a text stands for, if a request can be made for it. -/
def requested (url : String) : Except TransportFault Url :=
  match Url.read? url with
  | none => .error .noUrl
  | some u => if isRequestable u then .ok u else .error (.wrongUrl (String.ofList u.text))

/-! ### Redirects -/

/-- The redirects that are followed from one request at most. -/
def maxRedirects : Nat := 10

/-- The statuses of responses that send on to the place that they name. -/
def redirectStatuses : List Nat := [301, 302, 303, 307, 308]

/-- The URL that the response to a request for the document under `u` sends on to. A
place that cannot stand in a request is none. -/
def sentOn? (u : Url) (r : HttpResponse) : Option Url :=
  if redirectStatuses.contains r.status then (r.location.bind u.refer?).filter isWritable
  else none

/-- The response at the end of the redirects that start at `u`, of which `left` may
still be followed. The text `url` is what was asked for at first. -/
def follow (url accept : String) : (left : Nat) → (u : Url) → Job HttpResponse
  | left, u => do
    let response : Option HttpResponse ← Job.request (.fetch (requestFor u accept))
    match response with
    | none => .fail (.registry (.requestFailed url (.notSent (String.ofList u.text))))
    | some response =>
      match sentOn? u response with
      | none => return response
      | some next =>
        match left with
        | 0 => .fail (.registry (.requestFailed url (.tooManyRedirects (String.ofList u.text))))
        | left + 1 =>
          if next.isWeb then follow url accept left next
          else .fail (.registry (.requestFailed url (.wrongUrl (String.ofList next.text))))

/-- The response to a request for the document under a URL. -/
def send (url accept : String) : Job HttpResponse :=
  match requested url with
  | .error cause => .fail (.registry (.requestFailed url cause))
  | .ok u => follow url accept maxRedirects u

/-! ### Responses -/

/-- A body that is no larger than a limit, neither by what is declared for it nor
by what arrives. -/
def capped (declared : Option Nat) (limit : Nat) (url : String) (body : ByteArray) :
    Except RegistryFault ByteArray :=
  if declared.any (limit < ·) || limit < body.size then .error (.tooLarge url limit)
  else .ok body

/-- The body of a response, if it is not too large and arrives as a whole. -/
def bodyOf (url : String) (r : HttpResponse) : Except RegistryFault ByteArray := do
  let body ← capped (some r.declared) maxBodySize url r.body
  if r.isCut then throw (.bodyCut url)
  return body

/-- Whether a status is one of success. -/
def isSuccess (status : Nat) : Bool :=
  200 ≤ status && status < 300

/-- The document in a response, if there is one. -/
def documentOf {α : Type} (read : Option Char → List Char → Except Json.Fault α)
    (url : String) (r : HttpResponse) : Except RegistryFault (Option α) := do
  if r.status == 404 then return none
  if !isSuccess r.status then throw (.status r.status (statusPhrase r.status) url)
  let body ← bodyOf url r
  let (mark, text) := Text.Utf8.marked body
  match read mark text with
  | .error fault => throw (.malformed fault)
  | .ok document => return some document

/-- The document under a URL, if there is one. -/
def document {α : Type} (read : Option Char → List Char → Except Json.Fault α)
    (url accept : String) : Job (Option α) := do
  let response ← send url accept
  match documentOf read url response with
  | .error fault => .fail (.registry fault)
  | .ok found => return found

/-- The document of a release. -/
def release (r : Registry) (package key : String) : Job (Option Release) :=
  document Release.ofText (r.releaseUrl package key) anyForm

/-- What a package has published. -/
def published (r : Registry) (package : String) : Job (Option Published) :=
  document Published.ofText (r.packageUrl package) shortForm

end Registry

end FrameworkUpgrade
