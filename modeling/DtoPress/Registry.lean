import DtoPress.Config.File
import DtoPress.Generation.Generator

/-!
# The registry of languages

A registry maps names to generator classes. A language has a primary name and aliases, all in
lower case; a name belongs to one language, and registering a primary name again replaces its
entry. `Registry.create` makes a generator with a configuration from a given one, overrides or
a file.
-/

namespace DtoPress

/-- What can be wrong with a use of the registry. -/
inductive RegistryError where
  /-- What is registered is no generator class; how it is written. -/
  | notGenerator (written : Text)
  | nameTaken (name owner : Text)
  | unknownLanguage (language : Text) (available : List Text)
  | badConfigKind (kind : String)
  | badConfig (language : Text) (e : ConfigError)

/-- The wording of a registry error. -/
def RegistryError.message : RegistryError → Text
  | .notGenerator written => written ++ " is not a CodeGenerator subclass"
  | .nameTaken name owner => "'" ++ name ++ "' is already registered for " ++ owner
  | .unknownLanguage language available =>
    "No generator registered for language: " ++ language ++ ". Available: "
      ++ Text.commaSeparated available
  | .badConfigKind kind => "Invalid config type: " ++ kind
  | .badConfig language e =>
    "Failed to create " ++ language ++ " generator: " ++ e.message

/-- What is offered for registration. -/
inductive Candidate where
  | generator (c : GeneratorClass)
  /-- A class of values. -/
  | valueClass (kind : String)
  | value (v : Value)

/-- A candidate as it is written in a message. -/
def Candidate.written : Candidate → Text
  | .generator c => s!"<class '{c.name}'>"
  | .valueClass kind => s!"<class '{kind}'>"
  | .value v => v.written

/-- One language and the names it answers to. -/
structure LanguageEntry where
  name : Text
  generator : GeneratorClass
  aliases : List Text := []

/-- All names of a language. -/
def LanguageEntry.names (e : LanguageEntry) : List Text :=
  e.name :: e.aliases

/-- What is shown of a language. -/
structure LanguageSummary where
  name : String
  generator : String
  extension : String
  aliases : List Text

/-- Where the configuration of a new generator comes from. -/
inductive ConfigSource where
  | given (c : Config)
  /-- Null for the defaults, an object of overrides, or the path of a file. -/
  | value (v : Value)

/-- Languages by name. -/
structure Registry where
  entries : Entries Text LanguageEntry := []
  /-- Templates added to each generator that is made. -/
  templates : List (String × String) := []

namespace Registry

/-- A name in lower case; a value that is no text is a fault. -/
def nameOf : Value → Except Fault Text
  | .str t => .ok (Text.lower t)
  | _ => .error .noAttribute

/-- The entry that a registration makes. -/
def newEntry (name : Value) (c : GeneratorClass) (aliases : Value) :
    Except Fault LanguageEntry := do
  let primary ← nameOf name
  let names ← (← aliases.elements).mapM nameOf
  return { name := primary, generator := c, aliases := names.filter (· != primary) }

/-- The language that owns a name, if it is another one than the given. -/
def otherOwner? (r : Registry) (primary name : Text) : Option Text :=
  match Entries.get? r.entries name with
  | some e => if e.name != primary then some e.name else none
  | none => none

/-- The first name of an entry that another language owns, with its owner. -/
def conflict? (r : Registry) (e : LanguageEntry) : Option (Text × Text) :=
  e.names.findSome? fun name => (r.otherOwner? e.name name).map fun owner => (name, owner)

/-- An entry under all of its names. -/
def insert (r : Registry) (e : LanguageEntry) : Registry :=
  { r with entries := e.names.foldl (fun entries name => Entries.put entries name e) r.entries }

/-- A language registered : the registry with its entry. -/
def register (r : Registry) (name : Value) (candidate : Candidate) (aliases : Value) :
    Except (Trouble RegistryError) (Registry × LanguageEntry) :=
  match candidate with
  | .generator c => do
    let e ← Trouble.ofFault (newEntry name c aliases)
    match r.conflict? e with
    | some (name, owner) => throw (.cause (.nameTaken name owner))
    | none => return (r.insert e, e)
  | other => .error (.cause (.notGenerator other.written))

/-- A text put in its place among sorted texts, unless it is there. -/
def insertName (name : Text) : List Text → List Text
  | [] => [name]
  | other :: rest =>
    if name < other then name :: other :: rest
    else if name = other then other :: rest
    else other :: insertName name rest

/-- The primary names, sorted. -/
def languages (r : Registry) : List Text :=
  r.entries.foldr (fun e names => insertName e.2.name names) []

/-- The entry of a language. -/
def entry (r : Registry) (language : Value) :
    Except (Trouble RegistryError) LanguageEntry := do
  let name ← Trouble.ofFault (nameOf language)
  match Entries.get? r.entries name with
  | some e => return e
  | none => throw (.cause (.unknownLanguage language.text r.languages))

/-- The primary name of a language. -/
def resolve (r : Registry) (language : Value) : Except (Trouble RegistryError) Text := do
  return (← r.entry language).name

/-- The name is registered. -/
def isSupported (r : Registry) (language : Value) : Except Fault Bool := do
  return Entries.has r.entries (← nameOf language)

/-- The configuration of a language from its source, with what was logged. -/
def configFor (t : FileTree) (language : Text) (source : ConfigSource) :
    Except (Trouble RegistryError) Config × Log :=
  let load (overrides file : Value) : Except (Trouble RegistryError) Config × Log :=
    let (config, log) := loadConfig t (.str language) overrides file
    (Trouble.widen (.badConfig language) config, log)
  match source with
  | .given c => (.ok c, [])
  | .value .null => load .null .null
  | .value (.object fields) => load (.object fields) .null
  | .value (.str path) => load .null (.str path)
  | .value v => (.error (.cause (.badConfigKind v.kindWord)), [])

/-- The generator of a language, with what was logged. -/
def create (r : Registry) (t : FileTree) (language : Value) (source : ConfigSource) :
    Except (Trouble RegistryError) Generator × Log :=
  match r.entry language with
  | .error e => (.error e, [])
  | .ok entry =>
    let (config, log) := configFor t entry.name source
    let generator : Except (Trouble RegistryError) Generator := do
      let g ← Trouble.ofFault (Generator.create entry.generator (← config))
      return g.addTemplates r.templates
    (generator, log)

end Registry

/-- What is shown of an entry. Its generator has to be made for it, with the defaults. -/
def LanguageEntry.describe (e : LanguageEntry) : Except Fault LanguageSummary := do
  let config ← Config.layered e.name [] .null
  let g ← Generator.create e.generator config
  return { name := g.kind.language, generator := g.kind.name, extension := g.kind.extension
           aliases := e.aliases }

namespace Registry

/-- What is shown of each language, by primary name. -/
def describeAll (r : Registry) :
    Except (Trouble RegistryError) (List (Text × LanguageSummary)) :=
  r.languages.mapM fun name => do
    let e ← r.entry (.str name)
    return (name, ← Trouble.ofFault e.describe)

/-- The registry with the one built-in language. -/
def standard : Registry :=
  ({} : Registry).insert { name := "typescript", generator := .typescript, aliases := ["ts"] }

end Registry

end DtoPress
