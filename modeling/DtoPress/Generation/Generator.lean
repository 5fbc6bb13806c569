import DtoPress.Config.Basic
import DtoPress.Template.Engine

/-!
# Generators

A generator is made from its class and a configuration. The settings of the generated
project, the text of one level of indentation and the quote character are fixed then; the
configuration itself can be changed later and is read again at every emission.
-/

namespace DtoPress

/-- A class of generators. All of them write the same files, each for its own language. -/
structure GeneratorClass where
  name : String
  /-- The language that the class writes. -/
  language : String
  /-- The extension of the files that the class writes. -/
  extension : String
  /-- There are no instances of the class. -/
  isAbstract : Bool := false
  /-- The extension can stand in the name of a file. -/
  inName : extension.toList.all (fun c => c != '/' && c != Char.ofNat 0) = true := by decide
  deriving DecidableEq, Repr

namespace GeneratorClass

theorem ne_of_mem_extension (kind : GeneratorClass) {c : Char} (h : c ∈ kind.extension.toList) :
    c ≠ '/' ∧ c ≠ Char.ofNat 0 := by
  simpa using List.all_eq_true.1 kind.inName c h

/-- The class of the one built-in language. -/
def typescript : GeneratorClass where
  name := "TypeScriptGenerator"
  language := "typescript"
  extension := ".ts"

/-- The interface of all generators. -/
def interface : GeneratorClass where
  name := "CodeGenerator"
  language := ""
  extension := ""
  isAbstract := true

end GeneratorClass

/-- A generator. -/
structure Generator where
  kind : GeneratorClass
  /-- The configuration as it is now. -/
  config : Config
  settings : Settings
  /-- The types that scalars are written as. -/
  types : TypeMap
  /-- The text of one level of indentation. -/
  indent : Text
  engine : Template.Engine

namespace Generator

/-- As many spaces as a value says. -/
def indentation (size : Value) : Except Fault Text := do
  let n ← (spacesOf size).mapError SpacesError.fault
  return List.replicate n (.char ' ')

/-- The settings of the generated project that a configuration has for its language. A key that
is no text is a fault. -/
def settingsOf : Custom → Except Fault Settings
  | .plain v => Settings.ofValue v
  | .keyed _ => .error .wrongType

/-- The generator of a class with a configuration. -/
def create (kind : GeneratorClass) (config : Config) : Except Fault Generator := do
  if kind.isAbstract then throw .wrongType
  let settings ← settingsOf config.custom
  let indent ← indentation config.indentSize
  return {
    kind, config, settings, indent
    types := settings.typeMap
    engine := .ofStyle config.quoteStyle Template.BuiltIn.file? }

/-- The generator with templates added. -/
def addTemplates (g : Generator) (templates : List (String × String)) : Generator :=
  { g with engine := templates.foldl (fun e t => e.add t.1 t.2) g.engine }

/-- What the unit of an entity depends on besides the entity. -/
def unitStyle (g : Generator) : UnitStyle :=
  { settings := g.settings
    types := g.types
    extension := g.kind.extension
    quote := g.engine.quote
    coerce := g.config.emitTypeCoercion.truthy
    comments := g.config.addComments.truthy }

/-- How files are laid out. -/
def layout (g : Generator) : Layout :=
  { indent := g.indent, commentIndent := g.config.indentSize, quote := g.engine.quote }

/-- The unit of an entity. -/
def unit (g : Generator) (e : Entity) : Except Fault DtoUnit :=
  e.unit g.unitStyle

end Generator

/-- The kinds of barrels. -/
inductive BarrelKind where
  | models
  | enums
  deriving DecidableEq, Repr

namespace BarrelKind

/-- The word for a kind. -/
def word : BarrelKind → String
  | .models => "models"
  | .enums => "enums"

/-- The kind that a value names. -/
def ofValue? : Value → Option BarrelKind
  | .str word => [BarrelKind.models, .enums].find? fun k => k.word == word
  | _ => none

/-- The export of a name. -/
def exportOf (kind : BarrelKind) (name : Value) : Export :=
  match kind with
  | .models => { symbol := .str (dtoName name), module := "./" ++ dtoName name ++ ".model" }
  | .enums => { symbol := name, module := "./" ++ name.text ++ ".enum" }

end BarrelKind

namespace Generator

/-- The path of the unit of an entity. -/
def modelPath (g : Generator) (entity : Value) : Text :=
  g.settings.modelPath g.kind.extension entity

/-- The path of the unit of an enum. -/
def enumPath (g : Generator) (enum : Value) : Text :=
  g.settings.enumPath g.kind.extension enum

/-- The path of a barrel. -/
def barrelPath (g : Generator) (kind : BarrelKind) : Text :=
  (match kind with
    | .models => g.settings.modelsDir
    | .enums => g.settings.enumsDir).text ++ "/index" ++ g.kind.extension

/-- The path of the file of helpers. -/
def helpersPath (g : Generator) : Text := "helpers" ++ g.kind.extension

/-- The path of the file of decorators. -/
def decoratorsPath (g : Generator) : Text := "decorators" ++ g.kind.extension

end Generator

end DtoPress
