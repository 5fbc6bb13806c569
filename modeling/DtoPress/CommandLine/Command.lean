import DtoPress.CommandLine.Screen
import DtoPress.CommandLine.Usage
import DtoPress.Generation.Session
import DtoPress.Registry
import DtoPress.Schema.Loader

/-!
# Commands

`run` carries out what the arguments ask for. A generation has two stages : `prepare` reads the
configuration and the schema and makes the generator, without touching the file tree, and only
then `complete` writes the files. An error with a cause ends a run with exit code one and is
logged and shown; a fault escapes.
-/

namespace DtoPress.CommandLine

/-- Why a run ended with an error. -/
inductive CommandError where
  | config (e : ConfigError)
  | registry (e : RegistryError)
  | model (e : ModelError)
  | generation (e : GenerationError)
  /-- A generation with a result that says it failed. -/
  | failed (e : Template.Error)

namespace CommandError

/-- The wording of a command error. -/
def message : CommandError → Text
  | config e => e.message
  | registry e => e.message
  | model e => e.message
  | generation e => e.message
  | failed e => GenerationResult.failureMessage e

/-- What a command error leaves in the log : a failed generation has left its record already. -/
def record : CommandError → Log
  | failed _ => []
  | e => [⟨.error, e.message⟩]

/-- What is shown of a command error. -/
def item : CommandError → Item
  | failed e => .failure (GenerationResult.failureMessage e)
  | e => .error e.message

end CommandError

/-- What a run showed and logged. -/
structure Transcript where
  shown : List Item := []
  log : Log := []

namespace Transcript

/-- More items shown. -/
def display (t : Transcript) (items : List Item) : Transcript :=
  { t with shown := t.shown ++ items }

/-- More records logged. -/
def add (t : Transcript) (log : Log) : Transcript :=
  { t with log := t.log ++ log }

end Transcript

/-- What a run works with besides its arguments. -/
structure Surroundings where
  registry : Registry
  tree : FileTree
  /-- What a request for the URL of the schema gets. -/
  reply : Except TransportError Response
  screen : Screen := .lenient

/-- How a run ended. -/
structure Outcome where
  /-- The exit code, or the fault that escaped. -/
  exit : Except Fault Nat
  transcript : Transcript := {}
  tree : FileTree
  /-- The help text, if it was shown. -/
  help : Option String := none
  /-- What ended the run before it started : the message, if there is one. -/
  stopped : Option (Option Text) := none

/-- A step that shows and logs and can fail, without access to the file tree. -/
abbrev Step := ExceptT (Trouble CommandError) (StateM Transcript)

namespace Step

/-- A computation with a log, its causes seen as command errors. -/
def logged {ε α : Type} (f : ε → CommandError) (r : Except (Trouble ε) α × Log) : Step α := do
  modify (·.add r.2)
  match r.1 with
  | .ok a => return a
  | .error e => throw (e.map f)

/-- A computation that can only fault. -/
def ofFault {α : Type} (r : Except Fault α) : Step α :=
  match r with
  | .ok a => return a
  | .error f => throw (.fault f)

/-- Items shown one after the other. -/
def showItems (screen : Screen) (items : List Item) : Step Unit := do
  let (shown, result) := screen.take items
  modify (·.display shown)
  ofFault result

end Step

namespace GenerateRequest

/-- The settings that the options override. -/
def overrides (q : GenerateRequest) : Entries Text Value :=
  let settings : List (Bool × Text × Value) :=
    [(q.output.truthy, "output_dir", q.output), (q.coerce, "emit_type_coercion", .bool true),
     (q.noEnums, "generate_enums", .bool false), (q.noHelpers, "generate_helpers", .bool false),
     (q.noComments, "add_comments", .bool false)]
  (settings.filter (·.1)).map (·.2)

/-- The target of a run. -/
def target (q : GenerateRequest) (c : Config) : Except Fault Target :=
  if q.dryRun then .ok (.buffer [])
  else do return .directory (← Path.ofValue c.outputDir) []

/-- What a run works with : the model of the schema, the generator and the configuration. -/
def read (q : GenerateRequest) (around : Surroundings) : Step (Model × Generator × Config) := do
  let language ← Step.logged .registry (around.registry.resolve q.language, [])
  let config ← Step.logged .config
    (loadConfig around.tree (.str language) (.object q.overrides) q.config)
  let warnings ← Step.ofFault config.warnings
  Step.showItems around.screen (warnings.map Item.warning)
  let (source, model) ← Step.logged .model
    (loadModel around.tree q.schema q.url around.reply)
  Step.showItems around.screen [.loaded source]
  let generator ← Step.logged .registry
    (around.registry.create around.tree (.str language) (.given config))
  return (model, generator, config)

/-- The first stage : what the run works with, and the target. -/
def prepare (q : GenerateRequest) (around : Surroundings) :
    Step (Model × Generator × Target) := do
  let (model, generator, config) ← q.read around
  let target ← Step.ofFault (q.target config)
  return (model, generator, target)

/-- The metadata of a run as a table. -/
def metadataTable (m : Metadata) : Item :=
  .table "Generation Metadata" ["Key", "Value"]
    (m.fields.map fun (key, v) => [key, v.text])

/-- What is shown of the files of a finished run. -/
def filesShown (w : Workspace) (files : List Text) : List Item :=
  match w.target with
  | .directory root _ => [.generated files.length root.text]
  | _ => w.target.files.flatMap fun (path, code) => [.blank, .file path code]

/-- What is shown of a finished run. -/
def resultShown (q : GenerateRequest) (w : Workspace) (files warnings : List Text)
    (m : Metadata) : List Item :=
  warnings.map Item.warning ++ filesShown w files
    ++ (if q.verbose then [metadataTable m] else [])

end GenerateRequest

namespace Outcome

/-- An outcome with more items shown. The fault of one that is refused takes the place of its
exit. -/
def showing (o : Outcome) (screen : Screen) (items : List Item) : Outcome :=
  let (shown, result) := screen.take items
  { o with exit := result >>= fun _ => o.exit, transcript := o.transcript.display shown }

/-- A run ended by an error with a cause. -/
def failed (screen : Screen) (transcript : Transcript) (tree : FileTree) (e : CommandError) :
    Outcome :=
  let ended : Outcome := { exit := .ok 1, tree, transcript := transcript.add e.record }
  ended.showing screen [e.item]

/-- A run ended by trouble. -/
def ofTrouble (screen : Screen) (transcript : Transcript) (tree : FileTree) :
    Trouble CommandError → Outcome
  | .cause e => failed screen transcript tree e
  | .fault f => { exit := .error f, transcript, tree }

end Outcome

namespace GenerateRequest

/-- The generation of what was prepared. -/
def generate (transcript : Transcript) (tree : FileTree) (prepared : Model × Generator × Target) :
    Session × Except (Trouble GenerationError) GenerationResult :=
  let (model, generator, target) := prepared
  let session : Session := { generator, workspace := { tree, target, log := transcript.log } }
  session.generateCode model

/-- The second stage : the files. -/
def complete (q : GenerateRequest) (screen : Screen) (transcript : Transcript) (tree : FileTree)
    (prepared : Model × Generator × Target) : Outcome :=
  let (after, result) := generate transcript tree prepared
  let w := after.workspace
  let transcript := { transcript with log := w.log }
  match result with
  | .error e => .ofTrouble screen transcript w.tree (e.map .generation)
  | .ok (.failed e) => .failed screen transcript w.tree (.failed e)
  | .ok (.done files warnings metadata) =>
    let done : Outcome := { exit := .ok 0, tree := w.tree, transcript }
    done.showing screen (q.resultShown w files warnings metadata)

/-- A generation. -/
def run (q : GenerateRequest) (around : Surroundings) : Outcome :=
  match (q.prepare around).run {} with
  | (.ok prepared, transcript) => q.complete around.screen transcript around.tree prepared
  | (.error e, transcript) => .ofTrouble around.screen transcript around.tree e

end GenerateRequest

/-- The row of a language. -/
def languageRow (name : Text) (s : LanguageSummary) : List Text :=
  ["🔧 " ++ name, s.extension, s.generator,
   if s.aliases.isEmpty then "[dim]none[/dim]" else Text.commaSeparated s.aliases]

/-- The languages as a table. -/
def languagesShown (languages : List (Text × LanguageSummary)) : List Item :=
  if languages.isEmpty then
    [.tagged "yellow" (Item.warningSign ++ " No code generators available")]
  else
    [.blank, .table "📋 Supported Languages" ["Language", "Extension", "Generator Class", "Aliases"]
      (languages.map fun (name, s) => languageRow name s)]

/-- The list of languages. -/
def runLanguages (around : Surroundings) : Outcome :=
  match around.registry.describeAll with
  | .ok languages =>
    let done : Outcome := { exit := .ok 0, tree := around.tree }
    done.showing around.screen (languagesShown languages)
  | .error e => .ofTrouble around.screen {} around.tree (e.map .registry)

/-- A subcommand carried out. -/
def Subcommand.run (around : Surroundings) : Subcommand → Outcome
  | .generate q => q.run around
  | .languages => runLanguages around

/-- An outcome with the records of its log from a level up. -/
def Outcome.atLevel (o : Outcome) (level : Level) : Outcome :=
  { o with transcript := { o.transcript with log := o.transcript.log.atLeast level } }

/-- A run that its arguments ended. -/
def Outcome.ofStop (around : Surroundings) : Stop → Outcome
  | .help program =>
    { exit := .ok 0, tree := around.tree, help := some (helpText program), stopped := some none }
  | .usage program message =>
    { exit := .ok 2, tree := around.tree
      stopped := some (some (program ++ ": error: " ++ message)) }

/-- The program run with the given arguments. Without a subcommand it shows its help text. -/
def run (around : Surroundings) (args : List String) : Outcome :=
  match Invocation.ofArguments args with
  | .error stop => .ofStop around stop
  | .ok invocation =>
    match invocation.logLevel, invocation.subcommand with
    | .error f, _ => { exit := .error f, tree := around.tree }
    | .ok level, some subcommand => (subcommand.run around).atLevel level
    | .ok _, none =>
      { exit := .ok 1, tree := around.tree, help := some (helpText programGrammar.program) }

end DtoPress.CommandLine
