import FrameworkUpgrade.Machine.OsFault
import FrameworkUpgrade.Machine.Path

/-!
# `FrameworkUpgrade.Machine.FileTree`: a tree of files held in memory

A tree says what is at a location, which is a list of names from the root. A walk
takes the names of a path one after another from a location. Each step needs a
directory to start from, a step up from the root stays there, and a symbolic link
is replaced by the names of its target, forty times at most in one walk. The walk
ends at something that is there, or at a last name that is free in a directory
that is there, where a file can be made.
-/

set_option autoImplicit false

namespace FrameworkUpgrade

/-- What can be at a location. A device is neither a file nor a directory. -/
inductive Node where
  | file (content : ByteArray)
  | directory
  | link (target : String)
  | device

/-- The names from the root to a place. -/
abbrev Location := List (List Char)

/-- A tree of files. The root is always a directory. -/
structure FileTree where
  nodes : List (Location × Node) := []

/-- Where a walk ends: at a location that is taken, or at one that is free. -/
inductive Place where
  | taken (location : Location)
  | free (location : Location)
deriving DecidableEq, Repr

namespace FileTree

/-- The octets that a name may have at most. -/
def maxNameSize : Nat := 255

/-- The octets that a path has fewer than. -/
def maxPathSize : Nat := 4096

/-- The symbolic links that a walk follows at most. -/
def maxLinks : Nat := 40

/-- What is at a location. -/
def node? (t : FileTree) : Location → Option Node
  | [] => some .directory
  | location => t.nodes.lookup location

/-- Whether a directory is at a location. -/
def isDirectoryAt (t : FileTree) (location : Location) : Bool :=
  match t.node? location with
  | some .directory => true
  | _ => false

/-- The tree with another node at a location. -/
def put (t : FileTree) (location : Location) (node : Node) : FileTree :=
  { t with nodes := (location, node) :: t.nodes.filter (·.1 != location) }

/-- The place that names lead to from a location. Behind a link `follow` goes on. -/
def walkWith (t : FileTree) (follow : Location → List (List Char) → Except OsFault Place)
    (start : Location) : (steps : List (List Char)) → Except OsFault Place
  | [] => .ok (.taken start)
  | name :: rest =>
    if !t.isDirectoryAt start then .error .notADirectory
    else if (String.ofList name).utf8ByteSize > maxNameSize then .error .nameTooLong
    else if name = Path.here then t.walkWith follow start rest
    else if name = Path.above then t.walkWith follow start.dropLast rest
    else
      let next := start ++ [name]
      match t.node? next with
      | none => if rest.isEmpty then .ok (.free next) else .error .notFound
      | some (.link target) =>
        follow (if Path.isAbsolute target then [] else start) (Path.names target ++ rest)
      | some _ => t.walkWith follow next rest

/-- The place that names lead to from a location, over so many links at most. -/
def walk (t : FileTree) : (links : Nat) → Location → List (List Char) → Except OsFault Place
  | 0 => t.walkWith fun _ _ => .error .tooManyLinks
  | links + 1 => t.walkWith (t.walk links)

/-- Why a text is no path of any length. -/
def textRefusal? (path : String) : Option OsFault :=
  if path.toList.contains '\x00' then some .nulInName
  else if path.isEmpty then some .notFound
  else none

/-- Why a text is no path at all. -/
def refusal? (path : String) : Option OsFault :=
  textRefusal? path <|>
    if path.utf8ByteSize ≥ maxPathSize then some .nameTooLong else none

/-- The location that a path leads to from the directory `cwd`. -/
def follow (t : FileTree) (cwd : Location) (path : String) : Except OsFault Location :=
  match t.walk maxLinks (if Path.isAbsolute path then [] else cwd) (Path.names path) with
  | .error fault => .error fault
  | .ok (.taken location) => .ok location
  | .ok (.free _) => .error .notFound

/-- The location of what a path names. -/
def locate (t : FileTree) (cwd : Location) (path : String) : Except OsFault Location :=
  match refusal? path with
  | some fault => .error fault
  | none => t.follow cwd path

/-- The location of what a path names, which is looked up name by name, so that
the path may have any length. -/
def resolve (t : FileTree) (cwd : Location) (path : String) : Except OsFault Location :=
  match textRefusal? path with
  | some fault => .error fault
  | none => t.follow cwd path

/-- What a path names. -/
def find? (t : FileTree) (cwd : Location) (path : String) : Option Node :=
  match t.locate cwd path with
  | .ok location => t.node? location
  | .error _ => none

/-- The path of a location. -/
def pathOf (location : Location) : String :=
  String.ofList ('/' :: ['/'].intercalate location)

/-- The octets of the file that a path names. -/
def read (t : FileTree) (cwd : Location) (path : String) : Except OsFault ByteArray :=
  match t.locate cwd path with
  | .error fault => .error fault
  | .ok location =>
    match t.node? location with
    | some (.file content) => .ok content
    | some .directory => .error .isADirectory
    | _ => .ok .empty

/-- The place for a file that names lead to from a location. The last name is one of a
file, so it is neither a step nor asks for a directory by a slash behind it. Behind a
link `follow` goes on. -/
def walkToFileWith (t : FileTree)
    (follow : Location → List (List Char) → Bool → Except OsFault Place) (start : Location)
    (steps : List (List Char)) (slashed : Bool) : Except OsFault Place :=
  match steps with
  | [] => .error .isADirectory
  | name :: rest =>
    let last := rest.isEmpty
    if !t.isDirectoryAt start then .error .notADirectory
    else if last && slashed then .error .isADirectory
    else if (String.ofList name).utf8ByteSize > maxNameSize then .error .nameTooLong
    else if name = Path.here then t.walkToFileWith follow start rest slashed
    else if name = Path.above then t.walkToFileWith follow start.dropLast rest slashed
    else
      let next := start ++ [name]
      match t.node? next with
      | none => if last then .ok (.free next) else .error .notFound
      | some (.link target) =>
        let origin := if Path.isAbsolute target then [] else start
        if last then follow origin (Path.properNames target) (Path.endsInSlash target)
        else follow origin (Path.names target ++ rest) slashed
      | some _ =>
        if last then .ok (.taken next) else t.walkToFileWith follow next rest slashed

/-- The place for a file that names lead to from a location, over so many links at
most. The last name of a link's target is one of a file, too. -/
def walkToFile (t : FileTree) :
    (links : Nat) → Location → List (List Char) → Bool → Except OsFault Place
  | 0 => t.walkToFileWith fun _ _ _ => .error .tooManyLinks
  | links + 1 => t.walkToFileWith (t.walkToFile links)

/-- The place that a path names for a file, if it may name one. -/
def filePlace (t : FileTree) (cwd : Location) (path : String) : Except OsFault Place :=
  match refusal? path with
  | some fault => .error fault
  | none =>
    t.walkToFile maxLinks (if Path.isAbsolute path then [] else cwd) (Path.properNames path)
      (Path.endsInSlash path)

/-- The tree with other octets in the file that a path names, which is made if
only its last name is missing. -/
def write (t : FileTree) (cwd : Location) (path : String) (content : ByteArray) :
    Except OsFault FileTree :=
  match t.filePlace cwd path with
  | .error fault => .error fault
  | .ok (.free location) => .ok (t.put location (.file content))
  | .ok (.taken location) =>
    match t.node? location with
    | some .directory => .error .isADirectory
    | some .device => .ok t
    | _ => .ok (t.put location (.file content))

/-- The tree with the directories that names lead to from a directory, and the
location they lead to. Those that are missing are made. -/
def makeDirectories (t : FileTree) (start : Location) : List (List Char) → FileTree × Location
  | [] => (t, start)
  | name :: rest =>
    match t.walk maxLinks start [name] with
    | .ok (.taken location) => t.makeDirectories location rest
    | .ok (.free location) => (t.put location .directory).makeDirectories location rest
    | .error _ => (t.put (start ++ [name]) .directory).makeDirectories (start ++ [name]) rest

/-- The tree with a node under a path, and with the directories that the path
leads through. -/
def add (t : FileTree) (path : String) (node : Node) : FileTree :=
  match (Path.names path).reverse with
  | [] => t
  | name :: others =>
    let (tree, directory) := t.makeDirectories [] others.reverse
    tree.put (directory ++ [name]) node

end FileTree

end FrameworkUpgrade
