import DtoPress.Text.Characters
import DtoPress.Text.Quoted
import DtoPress.Text.Lines

/-!
# Grammars of arguments

A grammar lists the options of a command and the one argument that it takes besides. An
argument that starts with a dash is matched with the options by `Grammar.mark` : in full, by a
prefix that fits only one, or with text attached to it. A lone dash, a negative number and a text
with a blank in it are plain arguments unless they match.
-/

namespace DtoPress.CommandLine

/-- An option. -/
structure OptionSpec where
  /-- The ways to write it. -/
  spellings : List String
  /-- It is followed by a value. -/
  takesValue : Bool := false
  /-- It shows the help text. -/
  isHelp : Bool := false
  /-- The values that it accepts, if not all. -/
  choices : Option (List String) := none

/-- The name of an option in messages. -/
def OptionSpec.name (o : OptionSpec) : String :=
  "/".intercalate o.spellings

/-- The argument that a command takes besides its options. -/
inductive Positional where
  /-- One that may be missing. -/
  | optional (name : String)
  /-- The name of a subcommand; all that follows it is the subcommand's. -/
  | command (name : String) (choices : List String)

/-- The name of a positional argument in messages. -/
def Positional.name : Positional → String
  | .optional name => name
  | .command name _ => name

/-- The arguments of a command. -/
structure Grammar where
  /-- The command as it is called in messages. -/
  program : String
  options : List OptionSpec
  positional : Option Positional := none
  /-- The names of arguments of which exactly one must be given. -/
  oneOf : List String := []

/-- Why a command is not run. -/
inductive Stop where
  /-- The help text of the command is shown. -/
  | help (program : String)
  /-- The arguments do not fit. -/
  | usage (program : String) (message : Text)
  deriving DecidableEq, Repr

/-- Something wrong with one argument. -/
def Stop.argument (program name : String) (message : Text) : Stop :=
  .usage program ("argument " ++ name ++ ": " ++ message)

/-- A value that is not among those an argument accepts. -/
def Stop.badChoice (program name value : String) (choices : List String) : Stop :=
  .argument program name
    ("invalid choice: " ++ Text.quoted value ++ " (choose from "
      ++ Text.commaSeparated (choices.map fun choice => Text.quoted (.ofString choice)) ++ ")")

/-- An option found in an argument. -/
structure Match where
  option : OptionSpec
  /-- The spelling that was meant. -/
  spelling : String
  /-- The text behind an equals sign or right behind a letter. -/
  attached : Option (List Char)

/-- What an argument is. -/
inductive Mark where
  | plain
  /-- Two dashes, which make all that follows plain. -/
  | dashes
  | option (m : Match)
  | unknownOption

namespace Grammar

/-- All spellings with their options, in order. -/
def spellings (g : Grammar) : List (String × OptionSpec) :=
  g.options.flatMap fun o => o.spellings.map fun s => (s, o)

/-- The option with the given spelling. -/
def find? (g : Grammar) (spelling : String) : Option OptionSpec :=
  (g.spellings.find? fun s => s.1 == spelling).map (·.2)

/-- A long option starts with two dashes. -/
def isLong (cs : List Char) : Bool :=
  ['-', '-'].isPrefixOf cs

/-- The options that a long argument can be short for. -/
def longMatches (g : Grammar) (cs : List Char) : List Match :=
  let (start, value) := Text.cut '=' cs
  (g.spellings.filter fun s => start.isPrefixOf s.1.toList).map fun (spelling, option) =>
    { option, spelling, attached := value }

/-- The options that an argument with one dash can start with or be short for. -/
def shortMatches (g : Grammar) (cs : List Char) : List Match :=
  g.spellings.filterMap fun (spelling, option) =>
    if spelling.toList = cs.take 2 then
      some { option, spelling, attached := some (cs.drop 2) }
    else if cs.isPrefixOf spelling.toList then some { option, spelling, attached := none }
    else none

/-- The options that an argument can stand for. -/
def candidates (g : Grammar) (cs : List Char) : List Match :=
  if isLong cs then g.longMatches cs else g.shortMatches cs

/-- A number behind a dash, with or without a decimal point. -/
def isNegativeNumber (cs : List Char) : Bool :=
  match cs with
  | '-' :: ds =>
    let ds := if ds.getLast? = some '\n' then ds.dropLast else ds
    let (whole, fraction) := Text.cut '.' ds
    match fraction with
    | none => !whole.isEmpty && whole.all Text.isDecimalDigit
    | some fraction =>
      whole.all Text.isDecimalDigit && !fraction.isEmpty && fraction.all Text.isDecimalDigit
  | _ => false

/-- What an argument is that starts with a dash, has more than that and is no spelling. -/
def markCandidate (g : Grammar) (arg : String) : Except Stop Mark :=
  let cs := arg.toList
  match g.candidates cs with
  | [m] => .ok (.option m)
  | [] => .ok (if isNegativeNumber cs || cs.contains ' ' then .plain else .unknownOption)
  | ms =>
    .error (.usage g.program
      ("ambiguous option: " ++ arg ++ " could match "
        ++ Text.commaSeparated (ms.map fun m => Text.ofString m.spelling)))

/-- The option that an argument assigns a value to by its full spelling. -/
def assigned? (g : Grammar) (cs : List Char) : Option Match :=
  match Text.cut '=' cs with
  | (spelling, some value) =>
    (g.find? (String.ofList spelling)).map fun option =>
      { option, spelling := String.ofList spelling, attached := some value }
  | (_, none) => none

/-- What an argument is. -/
def mark (g : Grammar) (arg : String) : Except Stop Mark :=
  match arg.toList with
  | [] => .ok .plain
  | ['-', '-'] => .ok .dashes
  | c :: cs =>
    if c ≠ '-' then .ok .plain
    else match g.find? arg with
      | some option => .ok (.option { option, spelling := arg, attached := none })
      | none =>
        if cs.isEmpty then .ok .plain
        else match g.assigned? arg.toList with
          | some m => .ok (.option m)
          | none => g.markCandidate arg

/-- All arguments marked; behind two dashes all are plain. -/
def markAll (g : Grammar) : List String → Except Stop (List (Mark × String))
  | [] => .ok []
  | arg :: rest => do
    match ← g.mark arg with
    | .dashes => return (.dashes, arg) :: rest.map fun a => (.plain, a)
    | m => return (m, arg) :: (← g.markAll rest)

end Grammar

end DtoPress.CommandLine
