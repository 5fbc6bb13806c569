import DtoPress.Value.Text

/-!
# Class declarations

The class generated for an entity, before it is written : its decorated properties, its static
properties and its comment.
-/

namespace DtoPress

/-- An argument of a decorator. -/
inductive Argument where
  /-- A value that stands for itself. -/
  | plain (v : Value)
  /-- A reference to a class that is resolved when it is used, to one object or a list. -/
  | lazy (target : Value) (isList : Value)

/-- The text of an argument. -/
def Argument.text : Argument → Text
  | .plain v => v.text
  | .lazy target _ => "() => " ++ target.text

/-- A decorator of a property. -/
structure Decorator where
  name : Value
  arguments : List Argument := []

/-- The text of a decorator. -/
def Decorator.text (d : Decorator) : Text :=
  "@" ++ d.name.text ++ "(" ++ Text.commaSeparated (d.arguments.map Argument.text) ++ ")"

/-- A decorated property. -/
structure Property where
  name : Value
  type : Value
  isRequired : Value
  decorators : List Decorator := []
  comment : Value := .null

/-- A static property with its initial value. -/
structure StaticProperty where
  name : Value
  type : Value
  initializer : Value

/-- A class. -/
structure ClassDeclaration where
  name : Value
  isExported : Value := .bool true
  properties : List Property := []
  statics : List StaticProperty := []
  comment : Value := .null

end DtoPress
