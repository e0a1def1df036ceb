/-!
# `FrameworkUpgrade.Machine.Path`: the text of a path

A path is a text, and it is shown as it was given. This module joins paths, cuts
the last name off, and reads the names that a walk through the file system takes
one after another. Slashes that follow one another count as one. A slash at the
end asks for a directory, and so is read as a last step to the same place.
-/

set_option autoImplicit false

namespace FrameworkUpgrade.Path

/-- Whether a path starts at the root. -/
def isAbsolute (path : String) : Bool :=
  path.toList.head? == some '/'

/-- Whether a path ends in a slash. -/
def endsInSlash (path : String) : Bool :=
  path.toList.getLast? == some '/'

/-- A path seen from a directory. -/
def join (directory path : String) : String :=
  if isAbsolute path then path
  else if directory.isEmpty || endsInSlash directory then directory ++ path
  else directory ++ "/" ++ path

/-- The parts of a text between its slashes. -/
def parts (text : List Char) : List (List Char) :=
  text.splitOn '/'

/-- The step to the same directory. -/
def here : List Char := ['.']

/-- The step to the directory above. -/
def above : List Char := ['.', '.']

/-- The names of a path. -/
def properNames (path : String) : List (List Char) :=
  (parts path.toList).filter (! ·.isEmpty)

/-- The names of a path, the last step to the same place if it ends in a slash. -/
def names (path : String) : List (List Char) :=
  properNames path ++ if endsInSlash path then [here] else []

/-- A part that adds nothing to a path. -/
def isIdle (part : List Char) : Bool :=
  part.isEmpty || part == here

/-- Parts, from the last to the first, without the idle ones in front. The first
part of a path that does not start at the root stays if it is a step. -/
def dropIdle (rooted : Bool) : List (List Char) → List (List Char)
  | [] => []
  | [part] => if part.isEmpty || (rooted && part == here) then [] else [part]
  | part :: others => if isIdle part then dropIdle rooted others else part :: others

/-- Parts, from the last to the first, as text. -/
def unparts (reversed : List (List Char)) : List Char :=
  ['/'].intercalate reversed.reverse

/-- The directory that a path lies in, if the path has a last name. -/
def parent? (path : String) : Option String :=
  let rooted := isAbsolute path
  let body := if rooted then path.toList.drop 1 else path.toList
  match dropIdle rooted (parts body).reverse with
  | [] => none
  | _ :: others =>
    let rest := unparts (dropIdle rooted others)
    some (String.ofList (if rooted then '/' :: rest else rest))

/-- A path and the directories it lies in, the nearest first, `limit` at most. -/
def ancestorsUpTo : (limit : Nat) → String → List String
  | 0, path => [path]
  | n + 1, path =>
    match parent? path with
    | none => [path]
    | some directory => path :: ancestorsUpTo n directory

/-- A path and the directories it lies in, the nearest first. Each is shorter than
the one before. -/
def ancestors (path : String) : List String :=
  ancestorsUpTo path.length path

/-- Whether a path is a directory or lies in it. -/
def liesIn (directory path : String) : Bool :=
  (names directory).isPrefixOf (names path)

end FrameworkUpgrade.Path
