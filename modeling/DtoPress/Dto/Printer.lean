import DtoPress.Dto.Unit
import DtoPress.Text.Lines
import DtoPress.Value.Spaces

/-!
# The text of generated files

How each kind of generated file is written : a class with its imports, an enum, a barrel of
exports, and the two fixed files of helpers and decorators. Every line ends in a line feed.
Nested lines start with copies of the indentation text; only the comment of a property is
indented by a number of spaces, which a value gives, so that this one step can fail.
-/

namespace DtoPress

/-- How files are laid out. -/
structure Layout where
  /-- The text of one level of indentation. -/
  indent : Text
  /-- The number of spaces before the lines of a property comment. -/
  commentIndent : Value
  /-- The quote character of string literals. -/
  quote : Char

/-- The comment made of a value. -/
def commentOf (v : Value) : Text :=
  Text.docComment v.text

/-- Lines, each with its end. -/
def unlines (lines : List Text) : Text :=
  lines.flatMap (· ++ "\n")

/-- The import of a group, if it has symbols. -/
def importLine (q : Char) (module : Value) (symbols : List Value) : Text :=
  if symbols.isEmpty then ""
  else "import \x7b " ++ Text.commaSeparated (symbols.map Value.text) ++ " \x7d from "
    ++ Text.literal q module.text ++ ";\n"

/-- The imports of a file. -/
def importLines (q : Char) (imports : Imports) : Text :=
  imports.flatMap fun (module, symbols) => importLine q module symbols

/-- The comment of a property. -/
def propertyComment (layout : Layout) (comment : Value) : Except SpacesError Text := do
  if comment.truthy then
    let n ← spacesOf layout.commentIndent
    return Text.indentLines n (commentOf comment) ++ "\n"
  else return ""

/-- The line that declares a property. -/
def propertyLine (p : Property) : Text :=
  p.name.text ++ (if p.isRequired.truthy then "!" else "?") ++ ": " ++ p.type.text ++ ";"

/-- The line of a decorator. -/
def decoratorLine (indent : Text) (d : Decorator) : Text :=
  indent ++ d.text ++ "\n"

/-- A property with its comment and decorators. -/
def propertyText (layout : Layout) (p : Property) : Except SpacesError Text := do
  let comment ← propertyComment layout p.comment
  return comment
    ++ p.decorators.flatMap (decoratorLine layout.indent)
    ++ layout.indent ++ propertyLine p ++ "\n\n"

/-- A static property. -/
def staticText (indent : Text) (p : StaticProperty) : Text :=
  indent ++ "static " ++ p.name.text ++ ": " ++ p.type.text ++ " = " ++ p.initializer.text
    ++ ";\n"

/-- The comment of a class or an enum, if it has one. -/
def headComment (comment : Value) : Text :=
  if comment.truthy then commentOf comment ++ "\n" else ""

/-- The text of a class. -/
def classText (layout : Layout) (c : ClassDeclaration) : Except SpacesError Text := do
  let properties ← c.properties.mapM (propertyText layout)
  return headComment c.comment
    ++ (if c.isExported.truthy then "export " else "") ++ "class " ++ c.name.text ++ " \x7b\n"
    ++ properties.flatten
    ++ c.statics.flatMap (staticText layout.indent)
    ++ "\x7d\n"

/-- The text of a file with a class. -/
def classFile (layout : Layout) (imports : Imports) (c : ClassDeclaration) :
    Except SpacesError Text := do
  return importLines layout.quote imports ++ "\n" ++ (← classText layout c)

/-- One value of an enum : its name and the literal of it. -/
def enumLine (indent : Text) (q : Char) (v : Value) : Text :=
  indent ++ v.text ++ " = " ++ Text.literal q v.text ++ ",\n"

/-- The text of a file with an enum. -/
def enumFile (indent : Text) (q : Char) (comments : Bool) (e : EnumType) : Text :=
  (if comments then headComment e.documentation else "")
    ++ "export enum " ++ e.name.text ++ " \x7b\n"
    ++ e.values.flatMap (enumLine indent q) ++ "\x7d\n"

/-- One export of a barrel : the symbol and the module it comes from. -/
structure Export where
  symbol : Value
  module : Text

/-- The line of one export. -/
def exportLine (q : Char) (e : Export) : Text :=
  "export \x7b " ++ e.symbol.text ++ " \x7d from " ++ Text.literal q e.module ++ ";\n"

/-- The text of a barrel. -/
def barrelFile (q : Char) (exports : List Export) : Text :=
  exports.flatMap (exportLine q)

/-- A line at a level of indentation. -/
structure CodeLine where
  level : Nat
  code : Text

/-- The text of a line. -/
def CodeLine.text (indent : Text) (l : CodeLine) : Text :=
  (List.replicate l.level indent).flatten ++ l.code

/-- The lines of the file of helpers. -/
def helperLines : List CodeLine :=
  [⟨0, "export function getEnumValues<T extends Record<string, string | number>>("⟩,
   ⟨1, "enumType: T,"⟩,
   ⟨0, "): Array<T[keyof T]> \x7b"⟩,
   ⟨1, "return Object.keys(enumType)"⟩,
   ⟨2, ".filter((key) => isNaN(Number(key)))"⟩,
   ⟨2, ".map((key) => enumType[key as keyof T]);"⟩,
   ⟨0, "\x7d"⟩]

/-- The text of the file of helpers. -/
def helpersFile (indent : Text) : Text :=
  unlines (helperLines.map (CodeLine.text indent))

/-- The backtick. -/
def backtick : Text :=
  [.char (Char.ofNat 96)]

/-- The reference to the schema of a class, as generated code writes it. -/
def schemaReference : Text :=
  "$ref: " ++ backtick ++ "#/components/schemas/$\x7breference.name\x7d" ++ backtick ++ ","

/-- The lines of the file of decorators. -/
def decoratorLines (q : Char) (validatorModule transformerModule jsonschemaModule : Text) :
    List CodeLine :=
  [⟨0, "import \x7b ValidateNested \x7d from " ++ Text.literal q validatorModule ++ ";"⟩,
   ⟨0, "import \x7b Type \x7d from " ++ Text.literal q transformerModule ++ ";"⟩,
   ⟨0, "import \x7b JSONSchema \x7d from " ++ Text.literal q jsonschemaModule ++ ";"⟩,
   ⟨0, ""⟩,
   ⟨0, "export function FixItemJsonSchemaReference(reference: any): PropertyDecorator \x7b"⟩,
   ⟨1, "return JSONSchema(\x7b"⟩,
   ⟨2, schemaReference⟩,
   ⟨1, "\x7d) as PropertyDecorator;"⟩,
   ⟨0, "\x7d"⟩,
   ⟨0, ""⟩,
   ⟨0, "export function FixArrayJsonSchemaReference(reference: any): PropertyDecorator \x7b"⟩,
   ⟨1, "return JSONSchema(\x7b"⟩,
   ⟨2, "type: " ++ Text.literal q "array" ++ ","⟩,
   ⟨2, "items: \x7b"⟩,
   ⟨3, schemaReference⟩,
   ⟨2, "\x7d,"⟩,
   ⟨1, "\x7d) as PropertyDecorator;"⟩,
   ⟨0, "\x7d"⟩,
   ⟨0, ""⟩,
   ⟨0, "export function Entity(typeFunction: () => Function, isArray: boolean = false): "
    ++ "PropertyDecorator \x7b"⟩,
   ⟨1, "return function (target: Object, propertyKey: string | symbol) \x7b"⟩,
   ⟨2, "ValidateNested(\x7b each: isArray \x7d)(target, propertyKey);"⟩,
   ⟨2, "Type(typeFunction)(target, propertyKey);"⟩,
   ⟨2, "const type = typeFunction();"⟩,
   ⟨2, "if (type) \x7b"⟩,
   ⟨3, "if (isArray) \x7b"⟩,
   ⟨4, "FixArrayJsonSchemaReference(type)(target, propertyKey);"⟩,
   ⟨3, "\x7d else \x7b"⟩,
   ⟨4, "FixItemJsonSchemaReference(type)(target, propertyKey);"⟩,
   ⟨3, "\x7d"⟩,
   ⟨2, "\x7d"⟩,
   ⟨1, "\x7d;"⟩,
   ⟨0, "\x7d"⟩]

/-- The text of the file of decorators. -/
def decoratorsFile (indent : Text) (q : Char)
    (validatorModule transformerModule jsonschemaModule : Text) : Text :=
  unlines ((decoratorLines q validatorModule transformerModule jsonschemaModule).map
    (CodeLine.text indent))

end DtoPress
