import FrameworkUpgrade.Range.Query

/-!
# `FrameworkUpgrade.Registry.Release`: what a registry says of a package

A registry answers with the document of one release, in which every field may be
missing, or with the versions and the dist-tags that a package has published.
Both hold tables from names to texts. A table is in ascending order of its names,
and a name is in it once.
-/

set_option autoImplicit false

namespace FrameworkUpgrade

/-- A table from names to texts. -/
abbrev Table := List (String × String)

namespace Table

/-- The table with another text under a name. -/
def insert (name text : String) : Table → Table
  | [] => [(name, text)]
  | (n, t) :: rest =>
    if name < n then (name, text) :: (n, t) :: rest
    else if n = name then (name, text) :: rest
    else (n, t) :: insert name text rest

/-- The table of a list of entries, of which the last with a name counts. -/
def ofEntries (entries : List (String × String)) : Table :=
  entries.foldl (fun t e => insert e.1 e.2 t) []

/-- The text under a name. -/
def find? (name : String) (t : Table) : Option String :=
  t.lookup name

end Table

/-- The document of a release. -/
structure Release where
  version : Option String := none
  peers : Option Table := none
  dev : Table := []
deriving DecidableEq, Repr, Inhabited

/-- What a package has published. -/
structure Published where
  tags : Table := []
  versions : List String := []
deriving DecidableEq, Repr, Inhabited

namespace Published

/-- The version that a query selects: the one that a dist-tag names, and the
highest that any other query holds of. -/
def pick? (p : Published) : Query → Option Version
  | .tag name => (Table.find? name p.tags).bind fun s => Version.read? s.toList
  | q => q.highest? p.versions

end Published

end FrameworkUpgrade
