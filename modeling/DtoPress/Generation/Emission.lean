import DtoPress.Generation.Generator
import DtoPress.Value.Sort

/-!
# Emissions

An emission is one file that a generator is about to write : its path and its text, or the
reason why there is no text. Nothing here depends on where the file goes. `Generator.plan`
lists the emissions of a whole model in the order in which they are written.
-/

namespace DtoPress

/-- Why a file has no text. -/
inductive EmissionError where
  | template (e : Template.Error)
  | unknownIndex (kind : Value)

/-- A file with its text, and what is noted once it is written. -/
structure Draft where
  path : Text
  text : Text
  notes : List Text := []

/-- A file that is about to be written. -/
structure Emission where
  /-- The names of the templates that it looks up, in order. -/
  lookUps : List String
  draft : Except (Trouble EmissionError) Draft

namespace Generator

/-- The rendering of a template : `text` if it is the built-in one, else its source filled in. -/
def rendering (g : Generator) (b : Template.BuiltIn) (context : Template.Context)
    (text : Except SpacesError Text) : Template.Rendering :=
  g.engine.rendering b.fileName (fun _ => text.mapError .notSpaces) (.ok context)

/-- The text that a template makes. -/
def rendered (g : Generator) (b : Template.BuiltIn) (context : Template.Context)
    (text : Except SpacesError Text) : Except Template.Error Text :=
  g.engine.text (some b.fileName) (g.rendering b context text)

/-- The emission of a text that a template makes. -/
def emission (g : Generator) (b : Template.BuiltIn) (context : Template.Context)
    (text : Except SpacesError Text) (path : Text) (notes : List Text) : Emission :=
  { lookUps := g.engine.lookedUp (g.rendering b context text)
    draft := match g.rendered b context text with
      | .ok text => .ok { path, text, notes }
      | .error e => .error (.cause (.template e)) }

/-- What the template of a unit is given. -/
def unitContext (g : Generator) (imports : Imports) (c : ClassDeclaration) : Template.Context :=
  [("imports", .imports imports), ("cls", .declaration c), ("indent", .value (.str g.indent)),
   ("indent_size", .value g.config.indentSize)]

/-- The text of a unit. -/
def renderUnit (g : Generator) (imports : Imports) (c : ClassDeclaration) :
    Except Template.Error Text :=
  g.rendered .model (g.unitContext imports c) (classFile g.layout imports c)

/-- The emission of the unit of an entity. -/
def emitEntity (g : Generator) (e : Entity) : Emission :=
  match g.unit e with
  | .error f => { lookUps := [], draft := .error (.fault f) }
  | .ok unit =>
    match unit.declaration with
    | none => { lookUps := [], draft := .error (.fault .noAttribute) }
    | some c =>
      g.emission .model (g.unitContext unit.imports c) (classFile g.layout unit.imports c)
        unit.path ["Emitted " ++ c.name.text]

/-- The emission of the unit of an enum. -/
def emitEnum (g : Generator) (e : EnumType) : Emission :=
  g.emission .enum
    [("enum", .enum e), ("indent", .value (.str g.indent)),
     ("add_comments", .value g.config.addComments)]
    (.ok (enumFile g.indent g.engine.quote g.config.addComments.truthy e))
    (g.enumPath e.name) ["Emitted enum " ++ e.name.text]

/-- The emission of a barrel of names that are in order. -/
def emitBarrel (g : Generator) (kind : BarrelKind) (sorted : List Value) : Emission :=
  let exports := sorted.map kind.exportOf
  g.emission .index [("exports", .exports exports)]
    (.ok (barrelFile g.engine.quote exports)) (g.barrelPath kind)
    ["Emitted " ++ kind.word ++ " index with " ++ toString exports.length ++ " exports"]

/-- The emission of a barrel of names. -/
def emitIndex (g : Generator) (kind : BarrelKind) (names : List Value) : Emission :=
  match Value.sort? names with
  | some sorted => g.emitBarrel kind sorted
  | none => { lookUps := [], draft := .error (.fault .wrongType) }

/-- The emission of a barrel whose kind and names are given by values. -/
def emitIndexOf (g : Generator) (kind names : Value) : Emission :=
  match BarrelKind.ofValue? kind with
  | none => { lookUps := [], draft := .error (.cause (.unknownIndex kind)) }
  | some kind =>
    match names.elements with
    | .error f => { lookUps := [], draft := .error (.fault f) }
    | .ok names => g.emitIndex kind names

/-- The emission of the file of helpers. -/
def emitHelpers (g : Generator) : Emission :=
  g.emission .helpers [("indent", .value (.str g.indent))] (.ok (helpersFile g.indent)) g.helpersPath []

/-- The emission of the file of decorators. -/
def emitDecorators (g : Generator) : Emission :=
  let s := g.settings
  g.emission .decorators
    [("indent", .value (.str g.indent)), ("validator_module", .value s.validatorModule),
     ("transformer_module", .value s.transformerModule),
     ("jsonschema_module", .value s.jsonschemaModule)]
    (.ok (decoratorsFile g.indent g.engine.quote s.validatorModule.text
      s.transformerModule.text s.jsonschemaModule.text))
    g.decoratorsPath []

/-- The emissions of a model in order : entities and their barrel, enums and theirs if they are
wanted, helpers if they are wanted, decorators. -/
def plan (g : Generator) (m : Model) : List Emission :=
  m.entities.map g.emitEntity ++ [g.emitIndex .models m.entityNames]
    ++ (if g.config.generateEnums.truthy then
        m.enums.map g.emitEnum ++ [g.emitIndex .enums m.enumNames]
      else [])
    ++ (if g.config.generateHelpers.truthy then [g.emitHelpers] else [])
    ++ [g.emitDecorators]

end Generator

end DtoPress
