import DtoPress.CommandLine.Grammar
import DtoPress.Value.Basic

/-!
# Reading arguments

`Grammar.read` takes the arguments of a command one after the other : an option with its value,
or the positional argument. What fits nowhere is left over; whether that is an error is for
the outermost command to say. The first thing that does not fit is the error, and the help
option ends the reading where it stands.
-/

namespace DtoPress.CommandLine

/-- What the arguments of a command give. -/
structure Reading where
  /-- What is given, by the names of options and of the positional argument. -/
  given : Entries String Value := []
  /-- The subcommand with its arguments. -/
  command : Option (String × List String) := none
  /-- The arguments that fit nowhere. -/
  leftOver : List String := []

namespace Reading

/-- An argument was given. -/
def has (r : Reading) (name : String) : Bool :=
  Entries.has r.given name

/-- What is given for an argument, null if nothing is. -/
def value (r : Reading) (name : String) : Value :=
  (Entries.get? r.given name).getD .null

/-- More arguments that fit nowhere. -/
def leave (r : Reading) (args : List String) : Reading :=
  { r with leftOver := r.leftOver ++ args }

end Reading

/-- An option in use, with its value. -/
abbrev Use := OptionSpec × Option String

namespace Grammar

/-- An argument given, unless another one excludes it. -/
def give (g : Grammar) (r : Reading) (name : String) (v : Value) : Except Stop Reading :=
  let excluding := if g.oneOf.contains name then g.oneOf.filter (· != name) else []
  match excluding.find? r.has with
  | some other => .error (.argument g.program name ("not allowed with argument " ++ other))
  | none => .ok { r with given := Entries.put r.given name v }

/-- Two dashes, which are dropped wherever they stand. -/
def twoDashes : String := "--"

/-- An option used : one that takes no value gives true, and two dashes as its value give the
empty list. -/
def use (g : Grammar) (r : Reading) (u : Use) : Except Stop Reading :=
  match u with
  | (o, none) => if o.isHelp then .error (.help g.program) else g.give r o.name (.bool true)
  | (o, some value) =>
    if value = twoDashes then g.give r o.name (.list [])
    else match o.choices with
      | some choices =>
        if choices.contains value then g.give r o.name (.str value)
        else .error (.badChoice g.program o.name value choices)
      | none => g.give r o.name (.str value)

/-- An option is not used as it must be. -/
def misused {α : Type} (g : Grammar) (o : OptionSpec) (message : Text) : Except Stop α :=
  .error (.argument g.program o.name message)

/-- A text attached to an option that takes no value. -/
def ignored {α : Type} (g : Grammar) (o : OptionSpec) (text : List Char) : Except Stop α :=
  g.misused o ("ignored explicit argument " ++ Text.quoted (.ofChars text))

/-- The options in an argument : the uses, and an option whose value is to follow. -/
structure Bundle where
  uses : List Use := []
  last : Option OptionSpec := none

/-- The options in the text behind the letter of an option : its value, or more letters. -/
def readLetters (g : Grammar) (o : OptionSpec) : List Char → Except Stop Bundle
  | [] => if o.takesValue then .ok { uses := [(o, some "")] } else g.ignored o []
  | c :: cs =>
    if o.takesValue then .ok { uses := [(o, some (String.ofList (c :: cs)))] }
    else match g.find? (String.ofList ['-', c]), cs with
      | none, _ => g.ignored o (c :: cs)
      | some next, [] => .ok { uses := [(o, none)], last := some next }
      | some next, cs => do
        let b ← g.readLetters next cs
        return { b with uses := (o, none) :: b.uses }

/-- The options in an argument that matches one. -/
def readMatch (g : Grammar) (m : Match) : Except Stop Bundle :=
  match m.attached with
  | none => .ok { last := some m.option }
  | some text =>
    if isLong m.spelling.toList && !m.option.takesValue then g.ignored m.option text
    else g.readLetters m.option text

/-- The value that follows an option : the next argument if that is plain. -/
def takeValue (g : Grammar) (o : OptionSpec) (rest : List (Mark × String)) :
    Except Stop (Use × Nat) :=
  if o.takesValue then
    match rest with
    | (.plain, value) :: _ => .ok ((o, some value), 1)
    | _ => g.misused o "expected one argument"
  else .ok ((o, none), 0)

/-- An argument that matches an option, used with what follows it : the reading after it and
the number of arguments that it took besides. -/
def useMatch (g : Grammar) (r : Reading) (m : Match) (rest : List (Mark × String)) :
    Except Stop (Reading × Nat) := do
  let b ← g.readMatch m
  let (uses, taken) ← match b.last with
    | none => pure (b.uses, 0)
    | some o => do
      let (u, taken) ← g.takeValue o rest
      pure (b.uses ++ [u], taken)
  return (← uses.foldlM g.use r, taken)

/-- A subcommand with its arguments. -/
def enter (g : Grammar) (r : Reading) (name : String) (choices args : List String) :
    Except Stop Reading :=
  match args with
  | [] => .ok r
  | command :: args =>
    if choices.contains command then .ok { r with command := some (command, args) }
    else .error (.badChoice g.program name command choices)

/-- The arguments behind two dashes, none of which is an option : the first is the positional
argument if that is still to come. -/
def readPlain (g : Grammar) (pending : Option Positional) (r : Reading) (args : List String) :
    Except Stop Reading :=
  match pending with
  | none => .ok (r.leave (twoDashes :: args))
  | some (.optional name) =>
    match args with
    | [] => .ok r
    | value :: args => do return (← g.give r name (.str value)).leave args
  | some (.command name choices) =>
    if args.isEmpty then .ok (r.leave [twoDashes])
    else g.enter r name choices (twoDashes :: args)

/-- The arguments without two dashes in front. -/
def dropDashes : List (Mark × String) → List (Mark × String)
  | (.dashes, _) :: rest => rest
  | rest => rest

/-- Marked arguments read from the left, `skip` of them being taken already. The positional
argument is still to come if it is pending. -/
def walk (g : Grammar) (pending : Option Positional) (r : Reading) (skip : Nat) :
    List (Mark × String) → Except Stop Reading
  | [] => .ok r
  | (mark, arg) :: rest =>
    match skip with
    | skip + 1 => g.walk pending r skip rest
    | 0 =>
      match mark with
      | .option m => do
        let (after, taken) ← g.useMatch r m rest
        g.walk pending after taken rest
      | .unknownOption => g.walk pending (r.leave [arg]) 0 rest
      | .dashes => g.readPlain pending r (rest.map (·.2))
      | .plain =>
        match pending with
        | none => g.walk none (r.leave [arg]) 0 rest
        | some (.command name choices) => g.enter r name choices (arg :: rest.map (·.2))
        | some (.optional name) => do
          let after ← g.give r name (.str arg)
          g.walk none after (rest.length - (dropDashes rest).length) rest

/-- Arguments in a message. -/
def listed (args : List String) : Text :=
  Text.joined " " (args.map .ofString)

/-- The arguments of which one must be given are there. -/
def complete (g : Grammar) (r : Reading) : Except Stop Reading :=
  if g.oneOf.isEmpty || g.oneOf.any r.has then .ok r
  else .error (.usage g.program
    ("one of the arguments " ++ listed g.oneOf ++ " is required"))

/-- What the arguments of a command give. -/
def read (g : Grammar) (args : List String) : Except Stop Reading := do
  let marked ← g.markAll args
  g.complete (← g.walk g.positional {} 0 marked)

end Grammar

end DtoPress.CommandLine
