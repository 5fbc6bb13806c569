import DtoPress.Dto.Declaration
import DtoPress.Naming
import DtoPress.Text.Lower
import DtoPress.Schema.Basic

/-!
# Classification of fields

`classify` says what a field becomes in a class : its type, its decorators in order and the
validator symbols that these need. The decorators are presence, type check, membership of an
enum, exposure, then coercion where it is asked for, and last the nested entity of a relation
to another entity.
-/

namespace DtoPress

/-- The type written for each scalar type. -/
abbrev TypeMap := Entries ScalarType Text

/-- The type written for a scalar type where nothing else is set. -/
def TypeMap.standard : TypeMap :=
  [(.int, "number"), (.float, "number"), (.dateTime, "Date"), (.string, "string"),
   (.boolean, "boolean"), (.decimal, "Prisma.Decimal"), (.json, "Prisma.JsonValue"),
   (.bytes, "Buffer")]

/-- The type written for a scalar type. -/
def TypeMap.get? (types : TypeMap) (t : ScalarType) : Option Text :=
  Entries.get? types t

/-- The decorator that checks the type of a scalar. -/
def ScalarType.check? : ScalarType → Option Text
  | .int => some "IsInt"
  | .dateTime => some "IsDate"
  | .string => some "IsString"
  | .boolean => some "IsBoolean"
  | _ => none

/-- The constructor that a scalar is coerced with. -/
def ScalarType.constructor? : ScalarType → Option Text
  | .int => some "Number"
  | .float => some "Number"
  | .dateTime => some "Date"
  | .string => some "String"
  | .boolean => some "Boolean"
  | _ => none

/-- A scalar type that lives in the namespace of the object-relational mapper. -/
def ScalarType.isMapped : ScalarType → Bool
  | .decimal => true
  | .json => true
  | _ => false

/-- The decorator that says whether a field must be there. -/
def Field.presence (f : Field) : Text :=
  if f.isRequired.truthy then "IsDefined" else "IsOptional"

/-- The decorator that checks the type of a field. -/
def Field.check? (f : Field) : Option Text :=
  f.scalarType.bind ScalarType.check?

/-- The constructor that a field is coerced with. -/
def Field.constructor? (f : Field) : Option Text :=
  f.scalarType.bind ScalarType.constructor?

/-- The field has a type of the object-relational mapper. -/
def Field.isMapped (f : Field) : Bool :=
  f.scalarType.any ScalarType.isMapped

/-- The type written for a field. A scalar type without an entry in the table is a fault. -/
def Field.targetType (f : Field) (types : TypeMap) : Except Fault Value := do
  let base ← match f.scalarType with
    | some t => match types.get? t with
      | some name => pure (.str name)
      | none => throw .noKey
    | none => pure f.type
  let named := if f.isObject then .str (dtoName base) else base
  return if f.isList.truthy then .str (named.text ++ "[]") else named

/-- The decorators that check a field : presence, type and membership. -/
def Field.checks (f : Field) : List Decorator :=
  { name := .str f.presence }
    :: (f.check?.toList.map fun check => { name := .str check })
    ++ (if f.isEnum then
        [{ name := .str "IsIn", arguments := [.plain (.str ("getEnumValues(" ++ f.type.text ++ ")"))] }]
      else [])

/-- The decorator that coerces a field; a list is coerced by the constructor of its items. -/
def Field.coercion (f : Field) : List Decorator :=
  f.constructor?.toList.map fun target =>
    { name := .str "Type", arguments := [.plain (.str ("() => " ++ target))] }

/-- The decorator of a relation to another entity than the owner. -/
def Field.nestedEntity (f : Field) (owner : Value) : List Decorator :=
  if f.refersToOther owner then
    [{ name := .str "Entity"
       arguments := [.lazy (.str (dtoName f.type)) f.isList,
        .plain (.str (Text.lower f.isList.text))] }]
  else []

/-- All decorators of a field, in order. -/
def Field.decorators (f : Field) (owner : Value) (coerce : Bool) : List Decorator :=
  f.checks ++ { name := .str "Expose" } :: (if coerce then f.coercion else []) ++ f.nestedEntity owner

/-- The validator symbols that a field needs, in the order of its decorators. -/
def Field.validatorSymbols (f : Field) : List Text :=
  f.presence :: f.check?.toList ++ (if f.isEnum then [("IsIn" : Text)] else [])

/-- What a field becomes in a class. -/
structure Classification where
  targetType : Value
  decorators : List Decorator
  symbols : List Text

/-- The classification of a field of the given owner. An empty table of types counts as the
standard one. -/
def Field.classify (f : Field) (owner : Value) (types : TypeMap) (coerce : Bool) :
    Except Fault Classification := do
  let targetType ← f.targetType (if types.isEmpty then .standard else types)
  return { targetType, decorators := f.decorators owner coerce, symbols := f.validatorSymbols }

end DtoPress
