import DtoPress.Config.Basic

/-!
# Merging configurations

A configuration is built in three layers : the defaults of the language, a file, and explicit
overrides. Each layer replaces whole settings of the one below it, but for two objects
`custom`, which are merged key by key. Last, settings that are not generic are moved into
`custom`, where they win over keys that stand there.
-/

namespace DtoPress

namespace Config

/-- The defaults of the one language that has any. -/
def typescriptDefaults : Entries Text Value :=
  [("output_dir", .str "generated"), ("indent_size", .int 4), ("quote_style", .str "double"),
   ("add_comments", .bool true),
   ("custom", .object
     [("validator_module", .str "class-validator"),
      ("transformer_module", .str "class-transformer"),
      ("orm_module", .str "@prisma/client"),
      ("orm_namespace", .str "Prisma"),
      ("helpers_module", .str "../helpers"),
      ("enums_module", .str "../enums"),
      ("decorators_module", .str "../decorators"),
      ("relation_module", .str "./")])]

/-- An example of overrides. -/
def exampleOverrides : Entries Text Value :=
  [("output_dir", .str "src/generated"), ("quote_style", .str "single"), ("indent_size", .int 2),
   ("emit_type_coercion", .bool true), ("orm_module", .str "@prisma/client")]

/-- The languages with defaults. -/
def languagesWithDefaults : List Text := ["typescript"]

/-- The defaults of a language, with an object `custom` in any case. -/
def defaultsFor (language : Text) : Entries Text Value :=
  if language = "typescript" then typescriptDefaults else [(customName, .object [])]

/-- One setting of a layer put over those below. Merging into something that is no object is a
fault. -/
def overlay (below : Entries Text Value) (setting : Text × Value) :
    Except Fault (Entries Text Value) :=
  match setting.1 == customName, setting.2 with
  | true, .object more =>
    match (Entries.get? below customName).getD (.object []) with
    | .object custom => .ok (below.put customName (.object (Entries.putAll custom more)))
    | _ => .error .noAttribute
  | _, v => .ok (below.put setting.1 v)

/-- A layer put over those below. -/
def merge (below layer : Entries Text Value) : Except Fault (Entries Text Value) :=
  layer.foldlM overlay below

/-- A pair that an item of a list gives : its two items, characters or keys. -/
def pairOf (item : Value) : Except Fault (Value × Value) := do
  match ← item.elements with
  | [k, v] => if k.isKey then return (k, v) else throw .wrongType
  | _ => throw .badValue

/-- The entries that a value stands for : the fields of an object, or a run of pairs. -/
def entriesOf (v : Value) : Except Fault (Entries Value Value) :=
  match v with
  | .object fields => .ok (Custom.entriesOfFields fields)
  | v => do
    let items ← v.elements
    items.foldlM (fun es item => do let (k, w) ← pairOf item; return Entries.put es k w) []

/-- A setting is generic. -/
def isGeneric (setting : Text × Value) : Bool :=
  fieldNames.contains setting.1

/-- The configuration with the merged settings : those that are not generic go into `custom`. -/
def ofMerged (settings : Entries Text Value) : Except Fault Config := do
  let generic := settings.filter isGeneric
  let special := settings.filter (!isGeneric ·)
  if special.isEmpty then ofFields generic
  else
    let custom ← entriesOf ((Entries.get? generic customName).getD (.object []))
    let c ← ofFields generic
    return { c with
      custom := .ofEntries (Entries.putAll custom (Custom.entriesOfFields special)) }

/-- The layer that a value gives : none if it counts as false. A value that is no object is a
fault. -/
def layerOf (v : Value) : Except Fault (Entries Text Value) :=
  if v.truthy then
    match v with
    | .object fields => .ok fields
    | _ => .error .noAttribute
  else .ok []

/-- The configuration of a language with the layers of a file and of overrides. -/
def layered (language : Text) (file : Entries Text Value) (overrides : Value) :
    Except Fault Config := do
  let base ← merge (defaultsFor language) file
  ofMerged (← merge base (← layerOf overrides))

end Config

end DtoPress
