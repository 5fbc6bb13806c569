import DtoPress.Template.Source

/-!
# What templates are given

A template is filled in from data by name : plain values, and the parts of the unit that it is
rendered for. Each datum has a text, which for a part of a unit names its kind and its fields.
-/

namespace DtoPress.Template

/-- A record by its kind and its fields. -/
def describeRecord (kind : Text) (fields : List (Text × Text)) : Text :=
  kind ++ "(" ++ Text.commaSeparated (fields.map fun (name, text) => name ++ "=" ++ text) ++ ")"

/-- Items in brackets. -/
def describeList (items : List Text) : Text :=
  "[" ++ Text.commaSeparated items ++ "]"

/-- Items in parentheses, a single one with a comma behind it. -/
def describeTuple : List Text → Text
  | [item] => "(" ++ item ++ ",)"
  | items => "(" ++ Text.commaSeparated items ++ ")"

/-- An argument of a decorator. -/
def describeArgument : Argument → Text
  | .plain v => v.written
  | .lazy target isList =>
    describeRecord "LazyReference" [("target", target.written), ("is_list", isList.written)]

/-- A decorator. -/
def describeDecorator (d : Decorator) : Text :=
  describeRecord "Annotation"
    [("name", d.name.written), ("arguments", describeTuple (d.arguments.map describeArgument))]

/-- A property. -/
def describeProperty (p : Property) : Text :=
  describeRecord "Property"
    [("name", p.name.written), ("type", p.type.written), ("is_required", p.isRequired.written),
     ("annotations", describeList (p.decorators.map describeDecorator)),
     ("comment", p.comment.written)]

/-- A static property. -/
def describeStatic (p : StaticProperty) : Text :=
  describeRecord "StaticProperty"
    [("name", p.name.written), ("type", p.type.written), ("initializer", p.initializer.written)]

/-- A class. -/
def describeClass (c : ClassDeclaration) : Text :=
  describeRecord "ClassDeclaration"
    [("name", c.name.written), ("is_exported", c.isExported.written),
     ("properties", describeList (c.properties.map describeProperty)),
     ("static_properties", describeList (c.statics.map describeStatic)),
     ("comment", c.comment.written)]

/-- The groups of imports. -/
def describeImports (imports : Imports) : Text :=
  describeList <| imports.map fun (module, symbols) =>
    describeRecord "ImportGroup"
      [("module", module.written), ("symbols", describeList (symbols.map Value.written))]

/-- An enum. -/
def describeEnum (e : EnumType) : Text :=
  describeRecord "EnumType"
    [("name", e.name.written), ("values", describeTuple (e.values.map Value.written)),
     ("documentation", e.documentation.written)]

/-- The exports of a barrel. -/
def describeExports (exports : List Export) : Text :=
  describeList <| exports.map fun e =>
    (Value.object [("symbol", e.symbol), ("module", .str e.module)]).written

/-- What is given to a template under a name. -/
inductive Datum where
  | value (v : Value)
  | imports (i : Imports)
  | declaration (c : ClassDeclaration)
  | enum (e : EnumType)
  | exports (es : List Export)

/-- The text of a datum. -/
def Datum.text : Datum → Text
  | .value v => v.text
  | .imports i => describeImports i
  | .declaration c => describeClass c
  | .enum e => describeEnum e
  | .exports es => describeExports es

/-- Data by name. -/
abbrev Context := Entries Text Datum

/-- The texts of data by name. -/
def Context.texts (given : Context) : Texts :=
  given.map fun (name, datum) => (name, datum.text)

end DtoPress.Template
