import FrameworkUpgrade.Json.Record
import FrameworkUpgrade.Registry.Release

/-!
# `FrameworkUpgrade.Registry.Document`: the documents of packages

Three documents tell about packages. A registry gives the document of one release
and the document of all that a package has published; an installed package has a
manifest, of which only the version counts. In each of them a field that is missing
is left empty. A document of a registry may hold octets that are no text, as long as
nothing is read of them: a mark stands in their place.
-/

set_option autoImplicit false

namespace FrameworkUpgrade

/-- What a field of a document holds. -/
inductive Entry where
  | text (s : Option String)
  | table (t : Option Table)
  | names (ns : List String)
deriving DecidableEq, Repr

namespace Entry

/-- The text of an entry that holds one. -/
def text? : Option Entry → Option String
  | some (.text s) => s
  | _ => none

/-- The table of an entry that holds one. -/
def table? : Option Entry → Option Table
  | some (.table t) => t
  | _ => none

/-- The names of an entry that holds some. -/
def nameList : Option Entry → List String
  | some (.names ns) => ns
  | _ => []

/-- Reads a text or null. -/
def readText (mark : Option Char) (cs : List Char) : Json.Result Entry :=
  (Json.readNullable (Json.readTextValue mark) cs).map fun (s, rest) => (.text s, rest)

/-- Reads a table. -/
def readTable (mark : Option Char) (cs : List Char) : Json.Result Table :=
  (Json.readMap mark (Json.readTextValue mark) cs).map fun (ms, rest) => (Table.ofEntries ms, rest)

/-- Reads a table that has to be there. -/
def readFullTable (mark : Option Char) (cs : List Char) : Json.Result Entry :=
  (readTable mark cs).map fun (t, rest) => (.table (some t), rest)

/-- Reads a table or null. -/
def readNullableTable (mark : Option Char) (cs : List Char) : Json.Result Entry :=
  (Json.readNullable (readTable mark) cs).map fun (t, rest) => (.table t, rest)

/-- Reads the keys of an object, in ascending order and each once, and skips its
values. -/
def readNames (mark : Option Char) (cs : List Char) : Json.Result Entry :=
  (Json.readMap mark Json.skipValue cs).map fun (ms, rest) =>
    (.names ((Table.ofEntries (ms.map fun (key, _) => (key, ""))).map Prod.fst), rest)

end Entry

/-- The fields of the document of a release. -/
def Release.fields (mark : Option Char) : List (Json.Field Entry) :=
  [⟨"version", Entry.readText mark⟩, ⟨"peerDependencies", Entry.readNullableTable mark⟩,
   ⟨"devDependencies", Entry.readFullTable mark⟩]

/-- The release of a document. -/
def Release.ofText (mark : Option Char) (cs : List Char) : Except Json.Fault Release := do
  match ← Json.readDocument mark (fields mark) 2 cs with
  | [version, peers, dev] =>
    return { version := Entry.text? version, peers := Entry.table? peers,
             dev := (Entry.table? dev).getD [] }
  | _ => return {}

/-- The fields of the document of what a package has published. -/
def Published.fields (mark : Option Char) : List (Json.Field Entry) :=
  [⟨"dist-tags", Entry.readFullTable mark⟩, ⟨"versions", Entry.readNames mark⟩]

/-- What a package has published, of a document. -/
def Published.ofText (mark : Option Char) (cs : List Char) : Except Json.Fault Published := do
  match ← Json.readDocument mark (fields mark) 0 cs with
  | [tags, versions] =>
    return { tags := (Entry.table? tags).getD [], versions := Entry.nameList versions }
  | _ => return {}

/-- The version in the manifest of an installed package. -/
def installedVersionText (cs : List Char) : Except Json.Fault (Option String) := do
  match ← Json.readDocument none [⟨"version", Entry.readText none⟩] 1 cs with
  | [version] => return Entry.text? version
  | _ => return none

end FrameworkUpgrade
