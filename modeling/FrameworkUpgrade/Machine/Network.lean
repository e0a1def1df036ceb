/-!
# `FrameworkUpgrade.Machine.Network`: requests and what answers them

A request asks for the document under a URL. The network answers it with a
response, or not at all. What stands under a URL is laid down by routes; under any
other URL nothing is found. A response of a status that has no body comes without
one, whatever its route says. A response may name a place where the document is to be
looked for instead.
-/

set_option autoImplicit false

namespace FrameworkUpgrade

/-- A request for the document under a URL. -/
structure HttpRequest where
  url : String
  accept : String
  agent : String
deriving DecidableEq, Repr

/-- A response: its status, the place that it names, the size that it declares for its
body, and the octets that arrive before the connection ends. -/
structure HttpResponse where
  status : Nat
  location : Option String := none
  declared : Nat
  body : ByteArray

/-- What stands under a URL. -/
inductive Route where
  | answers (response : HttpResponse)
  | drops

/-- The network. Where it is not reachable it answers nothing. -/
structure Network where
  reachable : Bool := true
  routes : List (String × Route) := []

namespace HttpResponse

/-- The statuses whose responses have no body. -/
def bodyless : List Nat := [204, 304]

/-- The response to a request for nothing that is there. -/
def notFound : HttpResponse :=
  { status := 404, declared := 0, body := .empty }

/-- A response as it arrives. -/
def arrived (r : HttpResponse) : HttpResponse :=
  if bodyless.contains r.status then { r with declared := 0, body := .empty }
  else { r with body := r.body.extract 0 r.declared }

/-- Whether the connection ended before the whole body arrived. -/
def isCut (r : HttpResponse) : Bool :=
  r.body.size < r.declared

end HttpResponse

namespace Network

/-- The response to a request, if there is one. -/
def fetch? (n : Network) (r : HttpRequest) : Option HttpResponse :=
  if n.reachable then
    match n.routes.lookup r.url with
    | none => some HttpResponse.notFound
    | some .drops => none
    | some (.answers response) => some response.arrived
  else none

end Network

end FrameworkUpgrade
