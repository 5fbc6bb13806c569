import DtoPress.Schema.Basic
import DtoPress.Value.Access
import DtoPress.Value.Text

/-!
# From schema documents to models

A schema document is an object with lists of models and enums, at its top or under
`datamodel`. `Model.ofDocument` reads it node by node in document order and stops at the
first node that lacks what it must have; `SchemaError.message` words what was missing. The texts
of names are made where a message could need them, so a name that cannot be printed is a fault
even if nothing is missing.
-/

namespace DtoPress

/-- What can be wrong with a schema document. -/
inductive SchemaError where
  | documentNotObject
  | datamodelNotObject
  | unnamedModel
  | unnamedField (model : Text)
  | untypedField (model field : Text)
  | unknownKind (kind model field : Text)
  | unnamedEnum
  | unnamedEnumValue (enum : Text)

/-- The wording of a schema error. -/
def SchemaError.message : SchemaError → Text
  | .documentNotObject => "Schema document must be a JSON object"
  | .datamodelNotObject => "'datamodel' must be a JSON object"
  | .unnamedModel => "Missing 'name' in model"
  | .unnamedField model => "Missing 'name' in field of model '" ++ model ++ "'"
  | .untypedField model field => "Missing 'type' in field '" ++ model ++ "." ++ field ++ "'"
  | .unknownKind kind model field =>
    "Unknown kind '" ++ kind ++ "' for field '" ++ model ++ "." ++ field ++ "'"
  | .unnamedEnum => "Missing 'name' in enum"
  | .unnamedEnumValue enum => "Missing 'name' in value of enum '" ++ enum ++ "'"

/-- A reading of part of a schema document. -/
abbrev SchemaReading := Except (Trouble SchemaError)

/-- The field that a node describes. -/
def Field.ofNode (model node : Value) : SchemaReading Field := do
  let modelText ← Trouble.ofFault model.print
  let name ← node.require "name" (.unnamedField modelText)
  let nameText ← Trouble.ofFault name.print
  let kindName := node.fieldOr "kind" (.str "scalar")
  match FieldKind.ofValue? kindName with
  | none =>
    let kindText ← Trouble.ofFault kindName.print
    throw (.cause (.unknownKind kindText modelText nameText))
  | some kind =>
    let type ← node.require "type" (.untypedField modelText nameText)
    return {
      name, type, kind
      isList := .bool (node.fieldOr "isList" (.bool false)).truthy
      isRequired := .bool (node.fieldOr "isRequired" (.bool false)).truthy
      isRelation := .bool (node.fieldOr "relationName" .null).truthy
      documentation := node.fieldOr "documentation" .null }

/-- The entity that a node describes. -/
def Entity.ofNode (node : Value) : SchemaReading Entity := do
  let name ← node.require "name" .unnamedModel
  let nodes ← Trouble.ofFault (node.fieldOr "fields" (.list [])).elements
  let fields ← nodes.mapM (Field.ofNode name)
  return { name, fields, documentation := node.fieldOr "documentation" .null }

/-- The enum value that a node gives : the name of an object, the text of anything else. -/
def enumValueOfNode (enum node : Value) : SchemaReading Value := do
  match node with
  | .object _ =>
    let enumText ← Trouble.ofFault enum.print
    node.require "name" (.unnamedEnumValue enumText)
  | v => return .str (← Trouble.ofFault v.print)

/-- The enum that a node describes. -/
def EnumType.ofNode (node : Value) : SchemaReading EnumType := do
  let name ← node.require "name" .unnamedEnum
  let nodes ← Trouble.ofFault (node.fieldOr "values" (.list [])).elements
  let values ← nodes.mapM (enumValueOfNode name)
  return { name, values, documentation := node.fieldOr "documentation" .null }

/-- The object that lists models and enums : what stands under `datamodel`, or the document. -/
def datamodelOf (document : Value) : SchemaReading Value :=
  match document with
  | .object _ =>
    match document.fieldOr "datamodel" document with
    | .object fields => return .object fields
    | _ => throw (.cause .datamodelNotObject)
  | _ => throw (.cause .documentNotObject)

/-- The model that a schema document describes. -/
def Model.ofDocument (document : Value) : SchemaReading Model := do
  let datamodel ← datamodelOf document
  let models ← Trouble.ofFault (datamodel.fieldOr "models" (.list [])).elements
  let entities ← models.mapM Entity.ofNode
  let enumNodes ← Trouble.ofFault (datamodel.fieldOr "enums" (.list [])).elements
  let enums ← enumNodes.mapM EnumType.ofNode
  return { entities, enums }

end DtoPress
