import DtoPress.Config.Merge
import DtoPress.Files.Tree
import DtoPress.Json.Writer
import DtoPress.Log

/-!
# Configuration files

A configuration is loaded from a JSON file and saved to one. `loadConfig` builds the
configuration of a language from its defaults, a file and overrides; `saveConfig` writes all
settings, so that they can be loaded again.
-/

namespace DtoPress

/-- What can be wrong with a configuration file. -/
inductive ConfigError where
  | notFound (path : Path)
  | notJson (path : Path)
  | malformed (path : Path) (e : Json.Malformed)
  | unreadable (path : Path) (e : OsError)
  | notObject (path : Path)
  | unsaved (path : Path) (e : OsError)

/-- The wording of a configuration error. -/
def ConfigError.message : ConfigError → Text
  | .notFound p => "Configuration file not found: " ++ p.text
  | .notJson p => "Configuration file must be JSON: " ++ p.text
  | .malformed p e =>
    "Invalid JSON in configuration file " ++ p.text ++ ": " ++ e.message
  | .unreadable p e =>
    "Failed to load configuration file " ++ p.text ++ ": " ++ e.message
  | .notObject p => "Configuration file must contain a JSON object: " ++ p.text
  | .unsaved p e => "Failed to save configuration to " ++ p.text ++ ": " ++ e.message

/-- The path that a value gives. -/
def Path.ofValue : Value → Except Fault Path
  | .str t => .ok (.ofText t)
  | _ => .error .wrongType

/-- The settings in a configuration file. -/
def readConfigFile (t : FileTree) (p : Path) :
    Except (Trouble ConfigError) (Entries Text Value) := do
  if !(← Trouble.ofFault (t.hasPath p)) then throw (.cause (.notFound p))
  if p.extension != ".json" then throw (.cause (.notJson p))
  let s ← Trouble.widen (.unreadable p) (t.readText p)
  match ← Trouble.widen (.malformed p) (Json.read s) with
  | .object fields => return fields
  | _ => throw (.cause (.notObject p))

/-- The layer of a file : none if the value that names it counts as false. -/
def fileLayer (t : FileTree) (file : Value) :
    Except (Trouble ConfigError) (Entries Text Value × Log) := do
  if file.truthy then
    let p ← Trouble.ofFault (Path.ofValue file)
    let fields ← readConfigFile t p
    return (fields, [⟨.debug, "Loaded configuration file " ++ p.text⟩])
  else return ([], [])

/-- The name of a language as a key of the defaults. -/
def languageKey (language : Value) : Except Fault Text :=
  match language with
  | .str t => .ok t
  | v => if v.isKey then .ok "" else .error .wrongType

/-- The configuration of a language from its defaults, a file and overrides, with what was
logged. -/
def loadConfig (t : FileTree) (language overrides file : Value) :
    Except (Trouble ConfigError) Config × Log :=
  match Trouble.ofFault (languageKey language) with
  | .error e => (.error e, [])
  | .ok key =>
    match fileLayer t file with
    | .error e => (.error e, [])
    | .ok (fields, log) => (Trouble.ofFault (Config.layered key fields overrides), log)

/-- A configuration written to a file : what the tree becomes, and why it failed. -/
def saveConfig (t : FileTree) (c : Config) (p : Path) :
    FileTree × Option (Trouble ConfigError) :=
  match p.fault? with
  | some f => (t, some (.fault f))
  | none =>
    let (after, e) := t.writePieces p (Json.prettyPieces c.toSaved)
    (after, e.map (Trouble.map (.unsaved p)))

end DtoPress
