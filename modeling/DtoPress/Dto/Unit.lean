import DtoPress.Dto.Imports
import DtoPress.Dto.Settings

/-!
# Units

A unit is one generated file before it is written : its path, its imports and its class.
`Entity.unit` builds the unit of an entity; the imports are added in a fixed order, from the
object-relational mapper to the decorators.
-/

namespace DtoPress

/-- A generated file before it is written. -/
structure DtoUnit where
  path : Text
  imports : Imports := []
  declaration : Option ClassDeclaration := none

/-- What the unit of an entity depends on besides the entity. -/
structure UnitStyle where
  settings : Settings
  /-- The types that scalars are written as. -/
  types : TypeMap
  /-- The extension of generated files. -/
  extension : Text
  /-- The quote character of string literals. -/
  quote : Char
  /-- Fields are coerced. -/
  coerce : Bool
  /-- Documentation becomes comments. -/
  comments : Bool

/-- The path of the unit of an entity. -/
def Settings.modelPath (s : Settings) (extension : Text) (entity : Value) : Text :=
  s.modelsDir.text ++ "/" ++ dtoName entity ++ ".model" ++ extension

/-- The path of the unit of an enum. -/
def Settings.enumPath (s : Settings) (extension : Text) (enum : Value) : Text :=
  s.enumsDir.text ++ "/" ++ enum.text ++ ".enum" ++ extension

/-- Symbols added if there is a reason to. -/
def Imports.addIf (imports : Imports) (wanted : Bool) (module : Value) (symbols : List Value) :
    Except Fault Imports :=
  if wanted then imports.tryAdd module symbols else .ok imports

/-- The imports of the unit of an entity whose fields are classified. -/
def Entity.imports (e : Entity) (s : Settings) (classified : List Classification) :
    Except Fault Imports := do
  let validators := (classified.flatMap (·.symbols)).eraseDups.map Value.str
  let related := e.relatedEntities
  let enums := e.referencedEnums
  let i ← Imports.addIf [] (e.fields.any (·.isMapped)) s.ormModule [s.ormNamespace]
  let i ← i.tryAdd s.validatorModule validators
  let i ← i.tryAdd s.transformerModule [.str "Expose", .str "Type"]
  let i ← i.addIf (!related.isEmpty) s.relationModule (related.map fun r => .str (dtoName r))
  let i ← i.addIf (e.fields.any (·.isEnum)) s.helpersModule [.str "getEnumValues"]
  let i ← i.addIf (!enums.isEmpty) s.enumsModule enums
  i.tryAdd s.decoratorsModule [.str "Entity"]

/-- The property that a classified field becomes. -/
def Field.property (f : Field) (c : Classification) (comments : Bool) : Property :=
  { name := f.name, type := c.targetType, isRequired := f.isRequired
    decorators := c.decorators, comment := if comments then f.documentation else .null }

/-- The class of an entity whose fields are classified. -/
def Entity.declaration (e : Entity) (style : UnitStyle) (classified : List Classification) :
    ClassDeclaration :=
  { name := .str (dtoName e.name)
    comment := if style.comments then e.documentation else .null
    properties := (e.fields.zip classified).map fun (f, c) => f.property c style.comments
    statics :=
      [{ name := .str "className", type := .str "string"
         initializer := .str (Text.literal style.quote (dtoName e.name)) }] }

/-- The unit of an entity. -/
def Entity.unit (e : Entity) (style : UnitStyle) : Except Fault DtoUnit := do
  let classified ← e.fields.mapM fun f => f.classify e.name style.types style.coerce
  let imports ← e.imports style.settings classified
  return {
    path := style.settings.modelPath style.extension e.name
    imports, declaration := some (e.declaration style classified) }

end DtoPress
