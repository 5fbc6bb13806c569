import DtoPress.CommandLine.Arguments
import DtoPress.Log

/-!
# The commands of `dtogen`

The grammars of the program and of its two subcommands, their help texts, and what the user
asks for : an `Invocation`, read off the arguments by `Invocation.ofArguments`.
-/

namespace DtoPress.CommandLine

/-- The option that shows the help text. -/
def helpOption : OptionSpec :=
  { spellings := ["-h", "--help"], isHelp := true }

/-- An option without a value. -/
def flag (spelling : String) : OptionSpec :=
  { spellings := [spelling] }

/-- An option with a value. -/
def valued (spellings : List String) : OptionSpec :=
  { spellings, takesValue := true }

/-- The option that sets the level of the log. -/
def levelOption : OptionSpec :=
  { spellings := ["--log-level"], takesValue := true, choices := some (Level.all.map Level.word) }

/-- The option that names the URL of the schema. -/
def urlOption : OptionSpec := valued ["--url"]

/-- The option that names the directory to write below. -/
def outputOption : OptionSpec := valued ["--output", "-o"]

/-- The option that names the language. -/
def languageOption : OptionSpec := valued ["--language", "-l"]

/-- The option that names the configuration file. -/
def configOption : OptionSpec := valued ["--config"]

/-- The option for coercions. -/
def coercionOption : OptionSpec := flag "--type-coercion"

/-- The option against enum files. -/
def noEnumsOption : OptionSpec := flag "--no-enums"

/-- The option against the file of helpers. -/
def noHelpersOption : OptionSpec := flag "--no-helpers"

/-- The option against comments. -/
def noCommentsOption : OptionSpec := flag "--no-comments"

/-- The option to show files and write none. -/
def dryRunOption : OptionSpec := flag "--dry-run"

/-- The option to show the metadata of the run. -/
def verboseOption : OptionSpec := flag "--verbose"

/-- The name of the argument that names the schema file. -/
def schemaArgument : String := "schema"

/-- The subcommand that generates files. -/
def generateWord : String := "generate"

/-- The subcommand that lists languages. -/
def languagesWord : String := "languages"

/-- The program. -/
def programGrammar : Grammar :=
  { program := "dtogen"
    options := [helpOption, levelOption]
    positional := some (.command "command" [generateWord, languagesWord]) }

/-- The subcommand that generates files. -/
def generateGrammar : Grammar :=
  { program := "dtogen generate"
    options :=
      [helpOption, urlOption, outputOption, languageOption, configOption, coercionOption,
       noEnumsOption, noHelpersOption, noCommentsOption, dryRunOption, verboseOption]
    positional := some (.optional schemaArgument)
    oneOf := [schemaArgument, urlOption.name] }

/-- The subcommand that lists languages. -/
def languagesGrammar : Grammar :=
  { program := "dtogen languages", options := [helpOption] }

/-! ## Help texts -/

/-- The help text of the program. -/
def programHelp : List String :=
  ["usage: dtogen [-h] [--log-level \x7bDEBUG,INFO,WARNING,ERROR\x7d]",
   "              \x7bgenerate,languages\x7d ...",
   "",
   "Generate validated DTO classes from a data-model description",
   "",
   "positional arguments:",
   "  \x7bgenerate,languages\x7d",
   "    generate            Generate DTO files from a schema document",
   "    languages           List supported target languages",
   "",
   "options:",
   "  -h, --help            show this help message and exit",
   "  --log-level \x7bDEBUG,INFO,WARNING,ERROR\x7d",
   "                        Logging level (default: WARNING)",
   "",
   "Examples:",
   "  dtogen generate schema.json -o src/generated",
   "  dtogen generate --url https://example.com/dmmf.json --dry-run",
   "  dtogen generate schema.json --config dtogen.json --type-coercion",
   "  dtogen languages"]

/-- The help text of the subcommand that generates files. -/
def generateHelp : List String :=
  ["usage: dtogen generate [-h] [--url URL] [--output OUTPUT]",
   "                       [--language LANGUAGE] [--config CONFIG]",
   "                       [--type-coercion] [--no-enums] [--no-helpers]",
   "                       [--no-comments] [--dry-run] [--verbose]",
   "                       [schema]",
   "",
   "Generate DTO classes, enums and barrel files from a DMMF JSON document",
   "",
   "positional arguments:",
   "  schema                DMMF JSON file",
   "",
   "options:",
   "  -h, --help            show this help message and exit",
   "  --url URL             URL to fetch the DMMF JSON from",
   "  --output OUTPUT, -o OUTPUT",
   "                        Output directory (default: from config, 'generated')",
   "  --language LANGUAGE, -l LANGUAGE",
   "                        Target language (default: typescript)",
   "  --config CONFIG       Configuration file path (JSON)",
   "",
   "generation options:",
   "  --type-coercion       Emit Type(() => X) coercion annotations for scalar",
   "                        fields",
   "  --no-enums            Don't generate enum files",
   "  --no-helpers          Don't generate helpers file",
   "  --no-comments         Don't emit documentation comments",
   "",
   "output:",
   "  --dry-run             Print generated files instead of writing them",
   "  --verbose             Show generation result metadata"]

/-- The help text of the subcommand that lists languages. -/
def languagesHelp : List String :=
  ["usage: dtogen languages [-h]",
   "",
   "options:",
   "  -h, --help  show this help message and exit"]

/-- The help text of a command. -/
def helpText (program : String) : String :=
  let lines :=
    if program = generateGrammar.program then generateHelp
    else if program = languagesGrammar.program then languagesHelp
    else programHelp
  String.join (lines.map (· ++ "\n"))

/-! ## What is asked for -/

/-- What the subcommand that generates files is asked for. What is not given is null, and what is
given without a value is the empty list. -/
structure GenerateRequest where
  schema : Value := .null
  url : Value := .null
  output : Value := .null
  language : Value := .str "typescript"
  config : Value := .null
  coerce : Bool := false
  noEnums : Bool := false
  noHelpers : Bool := false
  noComments : Bool := false
  dryRun : Bool := false
  verbose : Bool := false

/-- The request that the arguments of the subcommand give. -/
def GenerateRequest.ofReading (r : Reading) : GenerateRequest :=
  let usual : GenerateRequest := {}
  { schema := r.value schemaArgument
    url := r.value urlOption.name
    output := r.value outputOption.name
    language := if r.has languageOption.name then r.value languageOption.name else usual.language
    config := r.value configOption.name
    coerce := r.has coercionOption.name
    noEnums := r.has noEnumsOption.name
    noHelpers := r.has noHelpersOption.name
    noComments := r.has noCommentsOption.name
    dryRun := r.has dryRunOption.name
    verbose := r.has verboseOption.name }

/-- A subcommand. -/
inductive Subcommand where
  | generate (request : GenerateRequest)
  | languages

/-- What the program is asked for. -/
structure Invocation where
  /-- The word for the level from which on the log is shown. -/
  level : Value := .str "WARNING"
  subcommand : Option Subcommand := none

/-- The level from which on the log is shown. What is no word for a level is a fault. -/
def Invocation.logLevel (i : Invocation) : Except Fault Level :=
  match i.level with
  | .str word => match Level.ofWord? word with
    | some level => .ok level
    | none => .error .badValue
  | _ => .error .noAttribute

/-- The subcommand with the given name and arguments, and the arguments left over. -/
def Subcommand.ofArguments (name : String) (args : List String) :
    Except Stop (Subcommand × List String) := do
  if name = languagesWord then
    let r ← languagesGrammar.read args
    return (.languages, r.leftOver)
  else
    let r ← generateGrammar.read args
    return (.generate (.ofReading r), r.leftOver)

/-- No argument may be left over. -/
def requireNone (leftOver : List String) : Except Stop Unit :=
  if leftOver.isEmpty then .ok ()
  else .error (.usage programGrammar.program
    ("unrecognized arguments: " ++ Grammar.listed leftOver))

/-- What the arguments of the program ask for. -/
def Invocation.ofArguments (args : List String) : Except Stop Invocation := do
  let r ← programGrammar.read args
  let usual : Invocation := {}
  let level := if r.has levelOption.name then r.value levelOption.name else usual.level
  match r.command with
  | none =>
    requireNone r.leftOver
    return { level }
  | some (name, rest) =>
    let (subcommand, leftOver) ← Subcommand.ofArguments name rest
    requireNone (r.leftOver ++ leftOver)
    return { level, subcommand := some subcommand }

end DtoPress.CommandLine
