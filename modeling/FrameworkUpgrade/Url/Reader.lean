import FrameworkUpgrade.Url.Basic

/-!
# `FrameworkUpgrade.Url.Reader`: reading a URL

A URL is read by itself and not against another one, so it has to start with a
scheme. What follows is cut at the first hash and the first question mark into
path, query and fragment, with the host in front of the path. A scheme that needs
a host has one after any number of slashes; another scheme has one only after two.
The segments `.` and `..` of a path are carried out while it is read, where no step
up leads out of a segment that is a drive, a letter with a colon or a bar. Blanks
around a URL and breaks in it do not count, but for a break that parts a drive in
front of the path of a file from the rest of its segment: there a new segment starts.
-/

set_option autoImplicit false

namespace FrameworkUpgrade.Url

/-! ### Cutting -/

/-- A control character or a space. -/
def isMargin (c : Char) : Bool :=
  c.toNat ≤ 0x20

/-- A break, which is a tab or the end of a line. -/
def isBreak (c : Char) : Bool :=
  c == '\t' || c == '\n' || c == '\r'

/-- A text without what may stand around a URL. -/
def withoutMargins (cs : List Char) : List Char :=
  Text.dropEndWhile isMargin (cs.dropWhile isMargin)

/-- A text without breaks. -/
def withoutBreaks (cs : List Char) : List Char :=
  cs.filter (! isBreak ·)

/-- A text up to a mark, and what follows the mark if it is there. -/
def cutAt (mark : Char) (cs : List Char) : List Char × Option (List Char) :=
  match cs.dropWhile (· != mark) with
  | [] => (cs, none)
  | _ :: rest => (cs.takeWhile (· != mark), some rest)

/-- A character of a scheme after its first letter. -/
def isSchemeCharacter (c : Char) : Bool :=
  c.isAlphanum || c == '+' || c == '-' || c == '.'

/-- The scheme at the front of a text, in lower case, and what follows its colon. -/
def cutScheme? (cs : List Char) : Option (List Char × List Char) :=
  let (front, rest) := cutAt ':' cs
  match withoutBreaks front, rest with
  | c :: name, some rest =>
    if c.isAlpha && name.all isSchemeCharacter then some ((c :: name).map Char.toLower, rest)
    else none
  | _, _ => none

/-- A character that separates the segments of a path. -/
def isSlash (special : Bool) (c : Char) : Bool :=
  c == '/' || (special && c == '\\')

/-! ### Host and port -/

/-- A host and what follows it, which starts at the colon that no bracket holds. -/
def cutHost (brackets : Bool) : List Char → List Char × List Char
  | [] => ([], [])
  | c :: cs =>
    if c = ':' && !brackets then ([], c :: cs)
    else
      let inside := if c = '[' then true else if c = ']' then false else brackets
      let (host, rest) := cutHost inside cs
      (c :: host, rest)

/-- The port that digits stand for, none if it is the one that the scheme stands
for or if there are no digits. -/
def port? (scheme digits : List Char) : Option (Option Nat) :=
  if digits.isEmpty then some none
  else do
    let n ← Host.numberOf? 10 digits
    if n > 65535 then none
    else if specialSchemes.lookup scheme == some n then some none
    else some (some n)

/-- The port behind a host and what follows it. A backslash ends a port also where
it is no slash. -/
def cutPort? (scheme : List Char) : List Char → Option (Option Nat × List Char)
  | ':' :: cs => do
    let digits := cs.takeWhile (·.isDigit)
    let port ← port? scheme digits
    let rest := cs.drop digits.length
    if rest.head?.all (isSlash true) then some (port, rest) else none
  | rest => some (none, rest)

/-- A host of a scheme, if there is one and it is well formed. -/
def host? (scheme text : List Char) : Option (Option Host) :=
  if text.isEmpty then (if needsHost scheme then none else some none)
  else if isSpecial scheme then (Host.read? text).map some
  else (Host.readOpaque? text).map some

/-- The credentials in front of a host, and what follows them. -/
def cutCredentials (cs : List Char) : List Char × List Char :=
  let place := (cs.reverse.takeWhile (· != '@')).reverse
  (cs.take (cs.length - place.length - 1), place)

/-- The credentials that stay in a URL. A name that is no text does, with what
follows it, and so does a password that is no text and has no name. -/
def keptCredentials (cs : List Char) : List Char :=
  let (name, password) := cutAt ':' cs
  let password := password.filter (! ·.isEmpty)
  if isText name && (!name.isEmpty || password.all isText) then []
  else
    let write := escape mayStandInCredentials
    write name ++ marked ':' (password.map write) ++ ['@']

/-- Whether nothing may stand for the host behind credentials. A lone mark in front
of it has to end the text of the URL. -/
def mayLackHost (name : List Char) (atEnd : Bool) : Bool :=
  !name.contains '@' || (cutCredentials name).1 == [':'] || (name == ['@'] && atEnd)

/-- Host and port in the text between the slashes and the path, and what follows
them. It matters whether the text ends the URL. -/
def authority? (scheme text : List Char) (atEnd : Bool) :
    Option ((Option Host × Option Nat) × List Char) := do
  let (hostText, behind) := cutHost false (cutCredentials text).2
  let host ← host? scheme hostText
  if host.isNone && (!mayLackHost text atEnd || behind.head? == some ':') then none
  else
    let (port, rest) ← cutPort? scheme behind
    return ((host, port), rest)

/-! ### Paths -/

/-- Whether a segment is one dot. -/
def isDot (segment : List Char) : Bool :=
  [".", "%2e"].contains (String.ofList (segment.map Char.toLower))

/-- Whether a segment is two dots. -/
def isDots (segment : List Char) : Bool :=
  ["..", "%2e.", ".%2e", "%2e%2e"].contains (String.ofList (segment.map Char.toLower))

/-- The letter of a drive in a segment that is one, with the mark behind it. -/
def driveLetter? : List Char → Option Char
  | [letter, mark] => if letter.isAlpha && (mark == ':' || mark == '|') then some letter else none
  | _ => none

/-- Whether a segment is a drive, perhaps with a backslash and more behind it. -/
def startsAsDrive (segment : List Char) : Bool :=
  (driveLetter? (segment.take 2)).isSome && (segment.drop 2).head?.all (· == '\\')

/-- The letter of a drive that a break parts from the rest of its segment, and that
rest. Only a drive with a colon is parted so. -/
def partedDrive? (segment : List Char) : Option (Char × List Char) :=
  match segment.dropWhile isBreak with
  | [] => none
  | letter :: behind =>
    match behind.dropWhile isBreak with
    | ':' :: mark :: rest => if letter.isAlpha && isBreak mark then some (letter, rest) else none
    | _ => none

/-- The segments of a path that have been read so far. -/
structure Trail where
  /-- The segments as they are written, from the last to the first. -/
  reversed : List (List Char) := []
  /-- Whether the first of them has been read as a drive of a file. -/
  onDrive : Bool := false

namespace Trail

/-- A trail with one more segment, which is escaped. -/
def push (trail : Trail) (segment : List Char) : Trail :=
  { trail with reversed := escape mayStandInPath (withoutBreaks segment) :: trail.reversed }

/-- A trail with one more segment of the path of a file. A drive in front is written
with a colon. -/
def pushFile (trail : Trail) (segment : List Char) : Trail :=
  if !trail.reversed.isEmpty then trail.push segment
  else match driveLetter? (withoutBreaks segment) with
    | some letter => { reversed := [[letter, ':']], onDrive := true }
    | none =>
      match partedDrive? segment with
      | some (letter, rest) => (trail.push [letter, ':']).push rest
      | none => trail.push segment

/-- A trail after a step up, which stays at a drive. -/
def up (trail : Trail) : Trail :=
  match trail.reversed with
  | [] => trail
  | segment :: rest => if startsAsDrive segment then trail else { trail with reversed := rest }

/-- A trail after more segments. A segment of dots at the end leaves an empty one.
Each other segment goes in as `put` says. -/
def walk (put : Trail → List Char → Trail) (trail : Trail) : List (List Char) → Trail
  | [] => trail
  | segment :: rest =>
    let name := withoutBreaks segment
    if isDots name || isDot name then
      let left := if isDots name then trail.up else trail
      walk put (if rest.isEmpty then left.push [] else left) rest
    else walk put (put trail segment) rest

/-- The path of a trail. -/
def toPath (trail : Trail) : List Char :=
  '/' :: ['/'].intercalate trail.reversed.reverse

/-- The path of the trail of a file, which starts with one slash. -/
def toFilePath (trail : Trail) : List Char :=
  '/' :: trail.toPath.dropWhile (· == '/')

end Trail

/-- The segments of a path, which may start with a slash. -/
def segmentsOf (special : Bool) (cs : List Char) : List (List Char) :=
  match cs.splitOnP (isSlash special) with
  | first :: second :: rest =>
    if (withoutBreaks first).isEmpty then second :: rest else first :: second :: rest
  | segments => segments

/-- A path of segments that are separated by slashes. -/
def segmentPath (special : Bool) (cs : List Char) : List Char :=
  (Trail.walk Trail.push {} (segmentsOf special cs)).toPath

/-! ### URLs -/

/-- A URL without credentials, with the query and the fragment that follow its
path. -/
def withTail (scheme : List Char) (authority : Option (Option Host × Option Nat))
    (path : List Char) (query fragment : Option (List Char)) : Url :=
  { scheme, credentials := [], authority, path
    query := query.map (escape (mayStandInQuery (isSpecial scheme)))
    fragment := fragment.map (escape mayStandInFragment) }

/-- The host of a file and the path behind it. A host that is this machine, and one
in front of a drive, are none. A letter of a drive is no host. Where the two slashes
of a host have none behind them, the path has one more slash while it is read. -/
def filePlace? (cs : List Char) : Option (Option Host × List Char) :=
  let walk := Trail.walk Trail.pushFile
  let hostless := some (none, (walk {} (segmentsOf true cs)).toFilePath)
  match cs.splitOnP (isSlash true) with
  | first :: second :: third :: path =>
    if !(withoutBreaks (first ++ second)).isEmpty then hostless
    else
      let name := withoutBreaks third
      if (driveLetter? name).isSome then some (none, (walk {} (third :: path)).toFilePath)
      else do
        let host ← if name.isEmpty then some none else (Host.read? name).map some
        match host.filter (·.text != "localhost".toList) with
        | none => return (none, (walk (({} : Trail).push []) path).toFilePath)
        | some host =>
          let trail := walk {} (if path.isEmpty then [[]] else path)
          return (if trail.onDrive then none else some host, trail.toFilePath)
  | _ => hostless

/-- The URL of a scheme and of the text between it and the query. -/
def body? (scheme cs : List Char) (query fragment : Option (List Char)) : Option Url :=
  let special := isSpecial scheme
  let behind := fun (place : List Char) => do
    let name := place.takeWhile (! isSlash special ·)
    let behind := place.drop name.length
    let atEnd := behind.isEmpty && query.isNone && fragment.isNone
    let (authority, rest) ← authority? scheme name atEnd
    let rest := rest ++ behind
    let path := if rest.isEmpty && !special then [] else segmentPath special rest
    return { withTail scheme (some authority) path query fragment with
      credentials := keptCredentials (cutCredentials name).1 }
  if scheme == fileScheme then do
    let (host, path) ← filePlace? cs
    return withTail scheme (some (host, none)) path query fragment
  else
    let cs := withoutBreaks cs
    if special then behind (cs.dropWhile (isSlash true))
    else match cs with
      | '/' :: '/' :: place => behind place
      | '/' :: _ => some (withTail scheme none (segmentPath false cs) query fragment)
      | _ => some (withTail scheme none (escape mayStandInOpaque cs) query fragment)

/-- The URL that a text stands for. -/
def read? (text : String) : Option Url := do
  let (scheme, rest) ← cutScheme? (withoutMargins text.toList)
  let (front, fragment) := cutAt '#' rest
  let (place, query) := cutAt '?' front
  body? scheme place (query.map withoutBreaks) (fragment.map withoutBreaks)

end FrameworkUpgrade.Url
