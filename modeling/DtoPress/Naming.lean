import DtoPress.Value.Text

/-!
# Names in generated code

Names are taken over from the schema as they are and only checked : `isIdentifier` is the
grammar of identifiers, `isValidName` the check, which lets one line feed at the end of a
name pass and refuses reserved words where they cannot stand. `dtoName` is the name of the
class generated for an entity.
-/

namespace DtoPress

/-- The words that no class or enum can have as its name. -/
def reservedWords : List Text :=
  List.map .ofString
    ["break", "case", "catch", "class", "const", "continue", "debugger", "default", "delete",
     "do", "else", "enum", "export", "extends", "false", "finally", "for", "function", "if",
     "implements", "import", "in", "instanceof", "interface", "let", "new", "null", "package",
     "private", "protected", "public", "return", "static", "super", "switch", "this", "throw",
     "true", "try", "typeof", "var", "void", "while", "with", "yield"]

/-- A character that an identifier can start with. -/
def isIdentifierStart (c : Char) : Bool :=
  c.isAlpha || c = '_' || c = '$'

/-- A character that an identifier can go on with. -/
def isIdentifierRest (c : Char) : Bool :=
  c.isAlphanum || c = '_' || c = '$'

/-- An identifier : not empty, one start character, then characters to go on with. -/
def isIdentifier : Text → Bool
  | [] => false
  | c :: cs => c.isA isIdentifierStart && cs.all (·.isA isIdentifierRest)

/-- The text without one line feed at its end. -/
def dropFinalNewline (t : Text) : Text :=
  if t.getLast? = some (.char '\n') then t.dropLast else t

/-- A text passes as a name. -/
def isValidName (t : Text) (allowReserved : Bool) : Bool :=
  isIdentifier (dropFinalNewline t) && (allowReserved || !reservedWords.contains t)

/-- A value passes as a name : false for what counts as false, and a fault for other values
that are no text. -/
def checkName (v : Value) (allowReserved : Bool) : Except Fault Bool :=
  if v.truthy then
    match v with
    | .str s => .ok (isValidName s allowReserved)
    | _ => .error .wrongType
  else .ok false

/-- The name of the class generated for an entity. -/
def dtoName (entity : Value) : Text :=
  entity.text ++ "DTO"

end DtoPress
