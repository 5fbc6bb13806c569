import DtoPress.Value.Order

/-!
# The data model

A model lists entities, each with its fields in order, and enums, each with its values.
Names, types and documentation are values as the schema document gave them. The names that
an entity refers to are read off its fields : `Entity.relatedEntities` and
`Entity.referencedEnums`.
-/

namespace DtoPress

/-- The scalar types that a field can have. -/
inductive ScalarType where
  | int
  | float
  | string
  | boolean
  | dateTime
  | bytes
  | decimal
  | json
  deriving DecidableEq, Repr

namespace ScalarType

/-- The name of a scalar type in a schema. -/
def name : ScalarType → String
  | .int => "Int"
  | .float => "Float"
  | .string => "String"
  | .boolean => "Boolean"
  | .dateTime => "DateTime"
  | .bytes => "Bytes"
  | .decimal => "Decimal"
  | .json => "Json"

/-- All scalar types. -/
def all : List ScalarType :=
  [.int, .float, .string, .boolean, .dateTime, .bytes, .decimal, .json]

/-- The scalar type with the given name. -/
def ofName? (name : Text) : Option ScalarType :=
  all.find? fun t => t.name == name

end ScalarType

/-- What the type of a field names. -/
inductive FieldKind where
  /-- A scalar type. -/
  | scalar
  /-- Another entity. -/
  | object
  /-- An enum. -/
  | enum
  deriving DecidableEq, Repr

namespace FieldKind

/-- The word for a kind in a schema. -/
def name : FieldKind → String
  | .scalar => "scalar"
  | .object => "object"
  | .enum => "enum"

/-- The kind that a value names. -/
def ofValue? : Value → Option FieldKind
  | .str word => [FieldKind.scalar, .object, .enum].find? fun k => k.name == word
  | _ => none

end FieldKind

/-- One field of an entity. -/
structure Field where
  name : Value
  /-- The name of a scalar type, of an entity or of an enum. -/
  type : Value
  kind : FieldKind := .scalar
  isList : Value := .bool false
  isRequired : Value := .bool false
  isRelation : Value := .bool false
  documentation : Value := .null

namespace Field

/-- The scalar type of a field, if its kind is scalar and its type is known. -/
def scalarType (f : Field) : Option ScalarType :=
  match f.kind, f.type with
  | .scalar, .str name => ScalarType.ofName? name
  | _, _ => none

/-- The field holds a value of an enum. -/
def isEnum (f : Field) : Bool := f.kind = .enum

/-- The field holds another entity. -/
def isObject (f : Field) : Bool := f.kind = .object

/-- The relation flag, narrowed to relations whose type is not the owner. -/
def relationTo (f : Field) (owner : Value) : Value :=
  if f.isRelation.truthy then .bool !(f.type.equals owner) else f.isRelation

/-- The field is a relation whose type is not the owner. -/
def refersToOther (f : Field) (owner : Value) : Bool :=
  (f.relationTo owner).truthy

end Field

/-- One record type. -/
structure Entity where
  name : Value
  fields : List Field := []
  documentation : Value := .null

/-- One enumeration. -/
structure EnumType where
  name : Value
  values : List Value := []
  documentation : Value := .null

/-- All entities and enums of a schema. -/
structure Model where
  entities : List Entity := []
  enums : List EnumType := []

/-- The entities that the relations of an entity lead to, each once, in field order. -/
def Entity.relatedEntities (e : Entity) : List Value :=
  ((e.fields.filter (·.refersToOther e.name)).map (·.type)).eraseDups

/-- The enums that the fields of an entity use, each once, in field order. -/
def Entity.referencedEnums (e : Entity) : List Value :=
  ((e.fields.filter (·.isEnum)).map (·.type)).eraseDups

/-- The first field with the given name. -/
def Entity.field? (e : Entity) (name : Value) : Option Field :=
  e.fields.find? fun f => f.name.equals name

namespace Model

/-- The names of the entities, in order. -/
def entityNames (m : Model) : List Value := m.entities.map (·.name)

/-- The names of the enums, in order. -/
def enumNames (m : Model) : List Value := m.enums.map (·.name)

/-- The first entity with the given name. -/
def entity? (m : Model) (name : Value) : Option Entity :=
  m.entities.find? fun e => e.name.equals name

/-- The first enum with the given name. -/
def enum? (m : Model) (name : Value) : Option EnumType :=
  m.enums.find? fun e => e.name.equals name

end Model

end DtoPress
