import DtoPress.Naming
import DtoPress.Schema.Basic

/-!
# Checking a model

`Model.warnings` lists the defects of a model that do not stop generation : entities without
fields and references to what is not there, then names that are no identifiers.
-/

namespace DtoPress

/-- A defect of a model. -/
inductive Defect where
  | noFields (entity : Value)
  | unknownEntity (entity field type : Value)
  | unknownEnum (entity field type : Value)
  | badEntityName (entity : Value)
  | badFieldName (entity field : Value)
  | badEnumName (enum : Value)

/-- The wording of a defect. -/
def Defect.message : Defect → Text
  | .noFields e => "Entity '" ++ e.text ++ "' has no fields"
  | .unknownEntity e f t =>
    "Relation " ++ e.text ++ "." ++ f.text ++ " references unknown entity '" ++ t.text ++ "'"
  | .unknownEnum e f t =>
    "Enum field " ++ e.text ++ "." ++ f.text ++ " references unknown enum '" ++ t.text ++ "'"
  | .badEntityName e => "Entity name '" ++ e.text ++ "' is not a valid TypeScript identifier"
  | .badFieldName e f =>
    "Field " ++ e.text ++ "." ++ f.text ++ " is not a valid TypeScript property name"
  | .badEnumName e => "Enum name '" ++ e.text ++ "' is not a valid TypeScript identifier"

/-- Whether a value is none of the given ones; a value that can be no member of a set is a
fault. -/
def isUnknown (known : List Value) (v : Value) : Except Fault Bool :=
  if v.isKey then .ok !(known.contains v) else .error .wrongType

/-- The references of a field that lead nowhere. -/
def Field.referenceDefects (f : Field) (entity : Value) (entities enums : List Value) :
    Except Fault (List Defect) := do
  let relation ← if f.isRelation.truthy then
      if ← isUnknown entities f.type then pure [Defect.unknownEntity entity f.name f.type]
      else pure []
    else pure []
  let enum ← if f.isEnum then
      if ← isUnknown enums f.type then pure [Defect.unknownEnum entity f.name f.type]
      else pure []
    else pure []
  return relation ++ enum

/-- What an entity lacks : fields, or what its fields refer to. -/
def Entity.referenceDefects (e : Entity) (entities enums : List Value) :
    Except Fault (List Defect) := do
  let perField ← e.fields.mapM fun f => f.referenceDefects e.name entities enums
  return (if e.fields.isEmpty then [.noFields e.name] else []) ++ perField.flatten

/-- A defect of a name that does not pass. -/
def nameDefect (name : Value) (allowReserved : Bool) (defect : Defect) :
    Except Fault (List Defect) := do
  return if ← checkName name allowReserved then [] else [defect]

/-- The names in an entity that do not pass. -/
def Entity.nameDefects (e : Entity) : Except Fault (List Defect) := do
  let own ← nameDefect e.name false (.badEntityName e.name)
  let perField ← e.fields.mapM fun f => nameDefect f.name true (.badFieldName e.name f.name)
  return own ++ perField.flatten

/-- The defects of a model in order. A name that can be no member of a set is a fault. -/
def Model.defects (m : Model) : Except Fault (List Defect) := do
  if !(m.entityNames.all Value.isKey && m.enumNames.all Value.isKey) then throw .wrongType
  let references ← m.entities.mapM fun e => e.referenceDefects m.entityNames m.enumNames
  let names ← m.entities.mapM Entity.nameDefects
  let enums ← m.enums.mapM fun e => nameDefect e.name false (.badEnumName e.name)
  return references.flatten ++ names.flatten ++ enums.flatten

/-- The warnings for a model. -/
def Model.warnings (m : Model) : Except Fault (List Text) := do
  return (← m.defects).map Defect.message

end DtoPress
