import SchemaDoc.Text.Basic

/-!
Contract: options among the arguments of a command.

An option has a long name behind two dashes, or a letter behind one; letters may share their dash.
The value of a long option is the next argument, whatever that is, or follows an equals sign.
Options end at the first argument that is none, and at a lone pair of dashes, which is left out.
-/

namespace SchemaDoc.CommandLine

/-- Why arguments are not understood. -/
inductive UsageFault where
  | noCommand
  | unknownCommand (name : Text)
  | unknownOption (name : Text)
  | missingValue (name : Text)
  | unexpectedValue (name : Text)
deriving DecidableEq, Repr

/-- The options of a command: the names of those without a value and of those with one. -/
structure Grammar where
  flags : List Text
  valued : List Text
deriving DecidableEq, Repr

/-- An option as it was given. -/
inductive Given where
  | flag (name : Text)
  | value (name given : Text)
deriving DecidableEq, Repr

/-- The argument can be an option. -/
def isOption : Text → Bool
  | '-' :: _ :: _ => true
  | _ => false

/-- The name of an option, and the value behind its equals sign. -/
def splitValue (argument : Text) : Text × Option Text :=
  let name := argument.takeWhile (· != '=')
  match argument.drop name.length with
  | _ :: value => (name, some value)
  | [] => (name, none)

namespace Grammar

/-- The options of letters that share one dash. -/
def readLetters (grammar : Grammar) : Text → Except UsageFault (List Given)
  | [] => .ok []
  | letter :: rest =>
    if grammar.flags.contains ['-', letter] then
      (readLetters grammar rest).map (Given.flag ['-', letter] :: ·)
    else .error (.unknownOption ['-', letter])

/-- The name is a long one of the listed options. -/
def hasLong (names : List Text) (name : Text) : Bool :=
  "--".toList.isPrefixOf name && names.contains name

/-- The options at the start of arguments, and the arguments behind them. -/
def read (grammar : Grammar) (arguments : List Text) :
    Except UsageFault (List Given × List Text) :=
  match arguments with
  | [] => .ok ([], [])
  | argument :: rest =>
    let (name, attached) := splitValue argument
    if argument = "--".toList then .ok ([], rest)
    else if !isOption argument then .ok ([], argument :: rest)
    else if hasLong grammar.flags name then
      if attached.isSome then .error (.unexpectedValue name)
      else (read grammar rest).map fun (options, rest) => (.flag name :: options, rest)
    else if hasLong grammar.valued name then
      match attached, rest with
      | some value, rest =>
        (read grammar rest).map fun (options, rest) => (.value name value :: options, rest)
      | none, value :: rest =>
        (read grammar rest).map fun (options, rest) => (.value name value :: options, rest)
      | none, [] => .error (.missingValue name)
    else if "--".toList.isPrefixOf argument then .error (.unknownOption name)
    else
      match readLetters grammar (argument.drop 1) with
      | .error fault => .error fault
      | .ok letters => (read grammar rest).map fun (options, rest) => (letters ++ options, rest)
termination_by arguments.length

end Grammar

end SchemaDoc.CommandLine
