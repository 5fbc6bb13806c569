import DtoPress.Value.Basic
import DtoPress.Decimal.Shortest
import DtoPress.Text.Quoted

/-!
# The text of a value

`Value.text` is how a value appears in a name, a path or a message : a string as it is, any
other value as `Value.written` writes it, with strings inside it quoted. Where a document is read
the limits of writing count : `Value.print` has no text for a number of too many digits and for
brackets nested too deep.
-/

namespace DtoPress.Value

mutual

/-- A value as it is written inside another one. -/
def written : Value → Text
  | .null => "None"
  | .bool b => if b then "True" else "False"
  | .int n => .ofString (toString n)
  | .float x => .ofString x.text
  | .str t => Text.quoted t
  | .list items => "[" ++ Text.commaSeparated (writtenItems items) ++ "]"
  | .object fields => "\x7b" ++ Text.commaSeparated (writtenFields fields) ++ "\x7d"

/-- The items of a list as they are written. -/
def writtenItems : List Value → List Text
  | [] => []
  | v :: vs => v.written :: writtenItems vs

/-- The fields of an object as they are written. -/
def writtenFields : List (Text × Value) → List Text
  | [] => []
  | (k, v) :: rest => (Text.quoted k ++ ": " ++ v.written) :: writtenFields rest

end

/-- A value as it appears in a text. -/
def text : Value → Text
  | .str t => t
  | v => v.written

/-- What keeps a whole number from being written : too many digits. -/
def numberHindrance? (n : Int) : Option Fault :=
  if n.natAbs < Nat.pow 10 maxDigits then none else some .badValue

mutual

/-- What keeps a value from being written with so many more brackets open at a time : a number of
too many digits or a bracket too many, whichever comes first. -/
def hindrance? : Nat → Value → Option Fault
  | _, .int n => numberHindrance? n
  | 0, .list _ => some .nesting
  | depth + 1, .list items => hindranceInItems? depth items
  | 0, .object _ => some .nesting
  | depth + 1, .object fields => hindranceInFields? depth fields
  | _, _ => none

/-- What keeps items from being written. -/
def hindranceInItems? (depth : Nat) : List Value → Option Fault
  | [] => none
  | v :: vs => (hindrance? depth v).or (hindranceInItems? depth vs)

/-- What keeps fields from being written. -/
def hindranceInFields? (depth : Nat) : List (Text × Value) → Option Fault
  | [] => none
  | (_, v) :: rest => (hindrance? depth v).or (hindranceInFields? depth rest)

end

/-- The text of a value, if it can be written. -/
def print (v : Value) : Except Fault Text :=
  match v.hindrance? maxDepth with
  | some f => .error f
  | none => .ok v.text

end DtoPress.Value
