import DtoPress.Dto.Classification
import DtoPress.Value.Access

/-!
# Settings of the generated project

The modules that generated files import from, the directories they stand in and the types
that scalars are written as. They are read from the object `custom` of a configuration, with
a usual value for each that is not set.
-/

namespace DtoPress

/-- Modules, directories and types of the generated project. -/
structure Settings where
  validatorModule : Value := .str "class-validator"
  transformerModule : Value := .str "class-transformer"
  jsonschemaModule : Value := .str "class-validator-jsonschema"
  ormModule : Value := .str "@prisma/client"
  ormNamespace : Value := .str "Prisma"
  helpersModule : Value := .str "../helpers"
  enumsModule : Value := .str "../enums"
  decoratorsModule : Value := .str "../decorators"
  relationModule : Value := .str "./"
  modelsDir : Value := .str "models"
  enumsDir : Value := .str "enums"

namespace Settings

/-- The settings given by the fields of an object. -/
def ofFields (fields : Entries Text Value) : Settings :=
  let usual : Settings := {}
  let get (key : Text) (v : Value) : Value := (Entries.get? fields key).getD v
  { validatorModule := get "validator_module" usual.validatorModule
    transformerModule := get "transformer_module" usual.transformerModule
    jsonschemaModule := get "jsonschema_module" usual.jsonschemaModule
    ormModule := get "orm_module" usual.ormModule
    ormNamespace := get "orm_namespace" usual.ormNamespace
    helpersModule := get "helpers_module" usual.helpersModule
    enumsModule := get "enums_module" usual.enumsModule
    decoratorsModule := get "decorators_module" usual.decoratorsModule
    relationModule := get "relation_module" usual.relationModule
    modelsDir := get "models_dir" usual.modelsDir
    enumsDir := get "enums_dir" usual.enumsDir }

/-- The settings that a value gives. A value that is no object is a fault, and so is an object
with the one key that cannot be a setting. -/
def ofValue : Value → Except Fault Settings
  | .object fields =>
    if Entries.has fields "self" then .error .wrongType else .ok (ofFields fields)
  | _ => .error .wrongType

/-- The settings by name. -/
def fields (s : Settings) : Entries Text Value :=
  [("validator_module", s.validatorModule), ("transformer_module", s.transformerModule),
   ("jsonschema_module", s.jsonschemaModule), ("orm_module", s.ormModule),
   ("orm_namespace", s.ormNamespace), ("helpers_module", s.helpersModule),
   ("enums_module", s.enumsModule), ("decorators_module", s.decoratorsModule),
   ("relation_module", s.relationModule), ("models_dir", s.modelsDir),
   ("enums_dir", s.enumsDir)]

/-- The types that scalars are written as : the usual ones, those of the object-relational
mapper in its namespace. -/
def typeMap (s : Settings) : TypeMap :=
  if s.ormNamespace.equals (.str "Prisma") then .standard
  else TypeMap.standard.map fun (t, name) =>
    match t with
    | .decimal => (t, s.ormNamespace.text ++ ".Decimal")
    | .json => (t, s.ormNamespace.text ++ ".JsonValue")
    | _ => (t, name)

end Settings

end DtoPress
