import FrameworkUpgrade.Url.Host

/-!
# `FrameworkUpgrade.Url.Basic`: the parts of a URL

A URL has a scheme, then perhaps a host with a port, then a path, and perhaps a
query and a fragment. Credentials in front of the host say who asks and not what
is asked for, so they are no part of it, unless they are no text that one could ask
with. The text of a URL is normal: two URLs of the same parts have the same text.
-/

set_option autoImplicit false

namespace FrameworkUpgrade

/-- The parts of a URL. A host that is left empty is no host. Credentials are those
that are no text, with the mark behind them. -/
structure Url where
  scheme : List Char
  credentials : List Char
  authority : Option (Option Url.Host × Option Nat)
  path : List Char
  query : Option (List Char)
  fragment : Option (List Char)
deriving DecidableEq, Repr

namespace Url

/-- The schemes that need a host, and the port that each of them stands for. -/
def specialSchemes : List (List Char × Nat) :=
  [("http".toList, 80), ("https".toList, 443), ("ws".toList, 80), ("wss".toList, 443),
   ("ftp".toList, 21)]

/-- The scheme of files, which may leave the host out. -/
def fileScheme : List Char := "file".toList

/-- Whether a scheme needs a host. -/
def needsHost (scheme : List Char) : Bool :=
  (specialSchemes.lookup scheme).isSome

/-- Whether a backslash counts as a slash in URLs of a scheme. -/
def isSpecial (scheme : List Char) : Bool :=
  needsHost scheme || scheme == fileScheme

/-- Whether documents under a URL are fetched over the network. -/
def isWeb (u : Url) : Bool :=
  u.scheme == "http".toList || u.scheme == "https".toList

/-- The name of the host of a URL. -/
def hostText (u : Url) : List Char :=
  match u.authority with
  | some (some host, _) => host.text
  | _ => []

/-- The place that a URL names, credentials, host and port, with the slashes before
it. -/
def authorityText (u : Url) : List Char :=
  match u.authority with
  | some (_, port) =>
    ['/', '/'] ++ u.credentials ++ u.hostText ++ (port.map fun n => ':' :: Host.decimal n).getD []
  | none => if (['/', '/'] : List Char).isPrefixOf u.path then ['/', '.'] else []

/-- A part of a URL behind the mark that starts it. -/
def marked (mark : Char) : Option (List Char) → List Char
  | some part => mark :: part
  | none => []

/-- The text of a URL up to its fragment. -/
def resource (u : Url) : List Char :=
  u.scheme ++ ':' :: u.authorityText ++ u.path ++ marked '?' u.query

/-- The text of a URL. -/
def text (u : Url) : List Char :=
  u.resource ++ marked '#' u.fragment

end Url

end FrameworkUpgrade
