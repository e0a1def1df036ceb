import FrameworkUpgrade.Url.Reader

/-!
# `FrameworkUpgrade.Url.Reference`: where a reference leads

A reference in the response to a request is read against the URL that was asked for.
It may leave out the front of a URL, and what it leaves out is taken over: the scheme
in front of two slashes, the host too in front of one, the path up to its last slash
in front of any other text, the whole path in front of a query, and all but the
fragment in front of a fragment. A scheme that is the one of the URL may stand in
front of such a reference and does not count.
-/

set_option autoImplicit false

namespace FrameworkUpgrade.Url

/-- The text of a URL up to its path. -/
def origin (u : Url) : List Char :=
  u.scheme ++ ':' :: u.authorityText

/-- The path of a URL up to its last slash. -/
def folder (u : Url) : List Char :=
  (u.path.reverse.dropWhile (· != '/')).reverse

/-- The front of a URL of the web that a reference without a scheme leaves out. -/
def leftOut (u : Url) (reference : List Char) : List Char :=
  match reference with
  | [] => u.resource
  | '#' :: _ => u.resource
  | '?' :: _ => u.origin ++ u.path
  | c :: rest =>
    if isSlash true c then
      if rest.head?.any (isSlash true) then u.scheme ++ [':'] else u.origin
    else u.origin ++ u.folder

/-- The URL that a reference leads to from a URL of the web. -/
def refer? (u : Url) (reference : String) : Option Url :=
  let cs := withoutBreaks (withoutMargins reference.toList)
  match cutScheme? cs with
  | none => read? (String.ofList (u.leftOut cs ++ cs))
  | some (scheme, rest) =>
    if scheme == u.scheme && !(['/', '/'] : List Char).isPrefixOf rest then
      read? (String.ofList (u.leftOut rest ++ rest))
    else read? reference

end FrameworkUpgrade.Url
