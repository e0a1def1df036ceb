/-!
# `FrameworkUpgrade.CommandLine.Grammar`: reading options and operands

A command knows some options, some of which take a value, and so many operands at
most; or it knows subcommands, and the first argument that names one of them ends
the arguments of the command. An option has a long name, which is written in full,
and perhaps a letter. Letters may be written together, and the last of them may
have a value. A value is written behind the option, after an equals sign or, with a
letter, directly, or it is the next argument, unless that one looks like an option.
After two hyphens alone there are only operands.

An option may be given once. That it is given is settled only when the next option
or operand is read, or at the end, so a mistake found before that is reported first.
-/

set_option autoImplicit false

namespace FrameworkUpgrade

/-- Why arguments are not accepted, or what is shown in the place of doing anything. -/
inductive Misuse where
  | helpAsked
  | versionAsked
  | nothingGiven
  | noSubcommand
  | unknownSubcommand
  | unknownArgument
  | valueMissing
  | valueUnwanted
  | givenTwice
deriving DecidableEq, Repr

namespace CommandLine

/-- What an option does. -/
inductive Effect where
  | flag
  | value
  | help
  | version
deriving DecidableEq, Repr

/-- An option of a command. -/
structure Switch where
  name : String
  letter : Option Char := none
  effect : Effect
deriving DecidableEq, Repr

/-- What a command knows. -/
structure Grammar where
  switches : List Switch
  operands : Nat := 0
  subcommands : List String := []
deriving DecidableEq, Repr

/-- The arguments read so far: the options that are settled with their values, the
option that is not settled with its value if it has come, and the operands. -/
structure Given where
  settled : List (String × Option String) := []
  pending : Option (String × Option String) := none
  operands : List String := []
deriving DecidableEq, Repr

/-- Where the arguments of a command end: with the last of all, or with the name of
a subcommand that other arguments follow. -/
inductive Ending where
  | last
  | subcommand (name : String) (others : List String)
deriving DecidableEq, Repr

namespace Given

/-- The value of an option. -/
def value? (g : Given) (name : String) : Option String :=
  (g.settled.lookup name).join

/-- Whether an option is given. -/
def has (g : Given) (name : String) : Bool :=
  (g.settled.lookup name).isSome

/-- Whether nothing is given at all. -/
def isEmpty (g : Given) : Bool :=
  g.settled.isEmpty && g.operands.isEmpty

/-- Whether the last option waits for its value. -/
def awaitsValue (g : Given) : Bool :=
  g.pending.any (·.2.isNone)

/-- The arguments with one more option settled. -/
def add (g : Given) (name : String) (value : Option String) : Except Misuse Given :=
  if g.has name then .error .givenTwice
  else .ok { g with settled := g.settled ++ [(name, value)] }

/-- The arguments with every option settled. -/
def settle (g : Given) : Except Misuse Given :=
  match g.pending with
  | none => .ok g
  | some (_, none) => .error .valueMissing
  | some (name, some value) => { g with pending := none }.add name (some value)

/-- The arguments with an option that takes no value here. -/
def apply (g : Given) (s : Switch) : Except Misuse Given := do
  let settled ← g.settle
  match s.effect with
  | .help => throw .helpAsked
  | .version => throw .versionAsked
  | _ => settled.add s.name none

/-- The arguments with an option whose value is attached to it. -/
def applyAttached (g : Given) (s : Switch) (value : String) : Except Misuse Given := do
  (← g.settle).add s.name (some value)

/-- The arguments with an option that waits for its value. -/
def await (g : Given) (s : Switch) : Except Misuse Given := do
  let settled ← g.settle
  return { settled with pending := some (s.name, none) }

/-- The arguments with the value that the last option waits for. -/
def receive (g : Given) (value : String) : Given :=
  { g with pending := g.pending.map fun (name, _) => (name, some value) }

end Given

/-! ### Options -/

/-- The arguments with a long option, whose text may have a value in it. -/
def readLong (grammar : Grammar) (g : Given) (text : List Char) : Except Misuse Given :=
  let name := text.takeWhile (· != '=')
  let value := (text.drop name.length).drop 1
  let attached := text.length != name.length
  match grammar.switches.find? (·.name == String.ofList name) with
  | none => .error .unknownArgument
  | some s =>
    match s.effect, attached with
    | .value, true => g.applyAttached s (String.ofList value)
    | .value, false => g.await s
    | _, true => .error .valueUnwanted
    | _, false => g.apply s

/-- A value written directly behind a letter, with or without an equals sign. -/
def attachedValue : List Char → List Char
  | '=' :: value => value
  | value => value

/-- The arguments with options that are written as letters. -/
def readLetters (grammar : Grammar) (g : Given) : List Char → Except Misuse Given
  | [] => .ok g
  | c :: rest =>
    match grammar.switches.find? (·.letter == some c) with
    | none => .error .unknownArgument
    | some s =>
      if s.effect = .value then
        if rest.isEmpty then g.await s
        else g.applyAttached s (String.ofList (attachedValue rest))
      else do
        let applied ← g.apply s
        readLetters grammar applied rest

/-! ### Operands -/

/-- Why an operand is not accepted. -/
def operandMisuse (grammar : Grammar) (afterHyphens : Bool) (argument : String) : Misuse :=
  if afterHyphens && grammar.subcommands.contains argument then .unknownArgument
  else if grammar.subcommands.isEmpty then .unknownArgument
  else .unknownSubcommand

/-- The arguments with one more operand. -/
def readOperand (grammar : Grammar) (afterHyphens : Bool) (g : Given) (argument : String) :
    Except Misuse Given :=
  if g.operands.length < grammar.operands then do
    let settled ← g.settle
    return { settled with operands := settled.operands ++ [argument] }
  else .error (operandMisuse grammar afterHyphens argument)

/-- The arguments with all the operands that are left. -/
def readOperands (grammar : Grammar) (g : Given) : List String → Except Misuse Given
  | [] => .ok g
  | argument :: rest => do
    let read ← readOperand grammar true g argument
    readOperands grammar read rest

/-! ### Arguments -/

/-- How an argument looks. -/
inductive Look where
  | hyphens
  | long (text : List Char)
  | letters (text : List Char)
  | plain
deriving DecidableEq, Repr

/-- The look of an argument. A hyphen alone is a plain one. -/
def look : List Char → Look
  | ['-', '-'] => .hyphens
  | '-' :: '-' :: text => .long text
  | '-' :: c :: text => .letters (c :: text)
  | _ => .plain

/-- The arguments of a command, and where they end. The last option may not be
settled yet. -/
def readArguments (grammar : Grammar) (g : Given) : List String → Except Misuse (Given × Ending)
  | [] => .ok (g, .last)
  | argument :: rest =>
    if !g.awaitsValue && grammar.subcommands.contains argument then
      .ok (g, .subcommand argument rest)
    else match look argument.toList with
      | .hyphens => do
        let read ← readOperands grammar g rest
        return (read, .last)
      | .long text => do
        let read ← readLong grammar g text
        readArguments grammar read rest
      | .letters text => do
        let read ← readLetters grammar g text
        readArguments grammar read rest
      | .plain =>
        if g.awaitsValue then readArguments grammar (g.receive argument) rest
        else do
          let read ← readOperand grammar false g argument
          readArguments grammar read rest

end CommandLine

end FrameworkUpgrade
