import DtoPress.Config.Custom

/-!
# Generator configurations

A configuration has a fixed set of generic settings, and `custom` for those of a language. Its
settings are kept as they were given; `Config.warnings` says which of them do not make sense.
-/

namespace DtoPress

/-- The settings of a generator. -/
structure Config where
  /-- The directory that files are written below. -/
  outputDir : Value := .str "generated"
  /-- The number of spaces of one level. -/
  indentSize : Value := .int 4
  /-- The quotes of string literals, `double` or `single`. -/
  quoteStyle : Value := .str "double"
  addComments : Value := .bool true
  emitTypeCoercion : Value := .bool false
  generateEnums : Value := .bool true
  generateHelpers : Value := .bool true
  /-- The settings of the language. -/
  custom : Custom := .plain (.object [])

namespace Config

/-- The generic settings by name, in the order in which they are saved. -/
def generic (c : Config) : Entries Text Value :=
  [("output_dir", c.outputDir), ("indent_size", c.indentSize), ("quote_style", c.quoteStyle),
   ("add_comments", c.addComments), ("emit_type_coercion", c.emitTypeCoercion),
   ("generate_enums", c.generateEnums), ("generate_helpers", c.generateHelpers)]

/-- The name of the settings of the language. -/
def customName : Text := "custom"

/-- The names of all settings of a configuration. -/
def fieldNames : List Text :=
  ({} : Config).generic.keys ++ [customName]

/-- A setting changed; a name that is no setting changes nothing. -/
def set (c : Config) (name : Text) (v : Value) : Config :=
  match name.string? with
  | some "output_dir" => { c with outputDir := v }
  | some "indent_size" => { c with indentSize := v }
  | some "quote_style" => { c with quoteStyle := v }
  | some "add_comments" => { c with addComments := v }
  | some "emit_type_coercion" => { c with emitTypeCoercion := v }
  | some "generate_enums" => { c with generateEnums := v }
  | some "generate_helpers" => { c with generateHelpers := v }
  | some "custom" => { c with custom := .plain v }
  | _ => c

/-- The configuration with the given settings and the usual values for the others. A name
that is no setting is a fault. -/
def ofFields (fields : Entries Text Value) : Except Fault Config :=
  if fields.all fun f => fieldNames.contains f.1 then
    .ok (fields.foldl (fun c f => c.set f.1 f.2) {})
  else .error .wrongType

/-- The configuration with the settings that an object gives. -/
def ofValue : Value → Except Fault Config
  | .object fields => ofFields fields
  | _ => .error .wrongType

/-- The configuration as an object. -/
def toValue (c : Config) : Value :=
  .object (c.generic ++ [(customName, c.custom.toValue)])

/-- The configuration as the object that is saved. -/
def toSaved (c : Config) : Value :=
  .object (c.generic ++ [(customName, c.custom.toSaved)])

/-- Two configurations have equal settings. -/
def same (c d : Config) : Bool :=
  Value.same (.object c.generic) (.object d.generic) && c.custom.same d.custom

/-- The value is a whole number that is not negative. -/
def isSize : Value → Bool
  | .int n => 0 ≤ n
  | .bool _ => true
  | _ => false

/-- What does not make sense in a configuration. A quote style that can be no member of a set
is a fault. -/
def warnings (c : Config) : Except Fault (List Text) :=
  if c.quoteStyle.isKey then
    .ok <|
      (if c.quoteStyle == .str "double" || c.quoteStyle == .str "single" then []
        else ["Invalid quote_style: " ++ c.quoteStyle.text])
      ++ (if isSize c.indentSize then [] else ["Invalid indent_size: " ++ c.indentSize.text])
      ++ (if c.outputDir.truthy then [] else [("output_dir is empty" : Text)])
  else .error .wrongType

end Config

end DtoPress
