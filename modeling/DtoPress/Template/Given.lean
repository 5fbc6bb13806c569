import DtoPress.Template.Engine

/-!
# Built-in templates filled in from values

A built-in template can be filled in from values by name instead of a unit. What it uses is
taken from the values in the order in which the text of the file uses it, and the first thing
that is missing is the error. `BuiltIn.fill` then writes the file as it is written for a unit.
-/

namespace DtoPress.Template

/-- Values by name. -/
abbrev Values := Entries Text Value

/-- Values by name as data. -/
def Values.context (given : Values) : Context :=
  given.map fun (name, v) => (name, .value v)

/-- The value of a name. -/
def Values.need (given : Values) (name : String) : Except Problem Value :=
  match Entries.get? given name with
  | some v => .ok v
  | none => .error (.undefined name)

/-- The word for a value as the owner of parts. -/
def ownerWord : Value → String
  | .null => "None"
  | v => v.kindWord ++ " object"

/-- A part of a value. -/
def partOf (key : String) (v : Value) : Except Problem Value :=
  match v with
  | .object fields =>
    match Entries.get? fields key with
    | some w => .ok w
    | none => .error (.noPart (ownerWord v) key)
  | _ => .error (.noPart (ownerWord v) key)

/-- The values that a value runs through. -/
def itemsOf (v : Value) : Except Problem (List Value) :=
  v.elements.mapError fun _ => .notIterable v.kindWord

/-- The group of imports that a value describes : nothing else is used of one without
symbols. -/
def groupOf (v : Value) : Except Problem (Value × List Value) := do
  let symbols ← partOf "symbols" v
  if symbols.truthy then
    let symbols ← itemsOf symbols
    return (← partOf "module" v, symbols)
  else return (.null, [])

/-- What a value lacks to be a decorator : it would have to be called. -/
def decoratorOf (v : Value) : Except Problem Decorator := do
  let render ← partOf "render" v
  throw (.notCallable render.kindWord)

/-- The property that a value describes. -/
def propertyOf (given : Values) (v : Value) : Except Problem Property := do
  let comment ← partOf "comment" v
  if comment.truthy then
    let _ ← (spacesOf (← given.need "indent_size")).mapError Problem.notSpaces
  let decorators ← (← itemsOf (← partOf "annotations" v)).mapM fun d => do
    let _ ← given.need "indent"
    decoratorOf d
  let _ ← given.need "indent"
  let name ← partOf "name" v
  let isRequired ← partOf "is_required" v
  return { name, isRequired, decorators, comment, type := ← partOf "type" v }

/-- The static property that a value describes. -/
def staticOf (given : Values) (v : Value) : Except Problem StaticProperty := do
  let _ ← given.need "indent"
  let name ← partOf "name" v
  let type ← partOf "type" v
  return { name, type, initializer := ← partOf "initializer" v }

/-- The class that a value describes. -/
def classOf (given : Values) (v : Value) : Except Problem ClassDeclaration := do
  let comment ← partOf "comment" v
  let isExported ← partOf "is_exported" v
  let name ← partOf "name" v
  let properties ← (← itemsOf (← partOf "properties" v)).mapM (propertyOf given)
  let statics ← (← itemsOf (← partOf "static_properties" v)).mapM (staticOf given)
  return { name, isExported, properties, statics, comment }

/-- The export that a value describes. -/
def givenExport (v : Value) : Except Problem Export := do
  let symbol ← partOf "symbol" v
  return { symbol, module := (← partOf "module" v).text }

/-- The text of a file with a class. -/
def fillModel (q : Char) (given : Values) : Except Problem Text := do
  let imports ← (← itemsOf (← given.need "imports")).mapM groupOf
  let c ← classOf given (← given.need "cls")
  let layout : Layout :=
    { indent := ((Entries.get? given "indent").getD (.str "")).text
      commentIndent := (Entries.get? given "indent_size").getD .null
      quote := q }
  (classFile layout imports c).mapError .notSpaces

/-- The text of a file with an enum. The values of an object cannot be run through. -/
def fillEnum (given : Values) : Except Problem Text := do
  let enum ← given.need "enum"
  if (← partOf "documentation" enum).truthy then
    let _ ← given.need "add_comments"
  let _ ← partOf "name" enum
  throw (.notIterable "builtin_function_or_method")

/-- The text of a built-in template filled in from values. -/
def BuiltIn.fill (q : Char) (given : Values) : BuiltIn → Except Problem Text
  | .model => fillModel q given
  | .index => do
    let exports ← (← itemsOf (← given.need "exports")).mapM givenExport
    return barrelFile q exports
  | .enum => fillEnum given
  | .helpers => do return helpersFile (← given.need "indent").text
  | .decorators => do
    let validator ← given.need "validator_module"
    let transformer ← given.need "transformer_module"
    let jsonschema ← given.need "jsonschema_module"
    let indent ← given.need "indent"
    return decoratorsFile indent.text q validator.text transformer.text jsonschema.text

/-- The values by name that a value gives to a template : none may be given for the template
itself. -/
def Values.ofValue : Value → Except Problem Values
  | .object fields => if Entries.has fields selfName then .error .selfGiven else .ok fields
  | v => .error (.notNamed v.kindWord)

namespace Engine

/-- The rendering of the template of a name from the values that a value gives. -/
def templateRendering (e : Engine) (name : String) (given : Value) : Rendering :=
  e.rendering name (fun b => do b.fill e.quote (← Values.ofValue given))
    ((Values.ofValue given).map (·.context))

/-- The rendering of a source without a name from the values that a value gives. -/
def stringRendering (e : Engine) (source : String) (given : Value) : Rendering :=
  e.library.fill e.quote none source ((Values.ofValue given).map (·.context))

/-- The template of a name filled in from the values that a value gives. -/
def renderTemplate (e : Engine) (name : String) (given : Value) : Except Error Text :=
  e.text (some name) (e.templateRendering name given)

/-- A source without a name filled in from the values that a value gives. -/
def renderString (e : Engine) (source : String) (given : Value) : Except Error Text :=
  e.text none (e.stringRendering source given)

end Engine

end DtoPress.Template
