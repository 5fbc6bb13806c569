import DtoPress.Decimal.Binary64
import DtoPress.Entries
import DtoPress.Fault
import DtoPress.Text.Basic

/-!
# Values

A schema document, a configuration file and the names inside them are JSON values, and a
value of an unexpected shape is carried along and printed as it is. `Value` is that type :
objects keep their fields in order, whole numbers are exact and apart from floating-point
ones. `Value.truthy` says which values count as false where a flag is expected.
-/

namespace DtoPress

/-- A JSON value. -/
inductive Value where
  | null
  | bool (b : Bool)
  | int (n : Int)
  | float (x : Binary64)
  | str (t : Text)
  | list (items : List Value)
  | object (fields : List (Text × Value))
  deriving Inhabited, Repr

namespace Value

/-- The greatest number of digits that a whole number has where it is read or written. -/
def maxDigits : Nat := 4300

/-- The number of brackets that can be open at a time where a value is read or written. -/
def maxDepth : Nat := 990

mutual

/-- Two values are the same, field for field. -/
def beq : Value → Value → Bool
  | .null, .null => true
  | .bool a, .bool b => a == b
  | .int a, .int b => a == b
  | .float a, .float b => a == b
  | .str a, .str b => a == b
  | .list as, .list bs => beqList as bs
  | .object as, .object bs => beqFields as bs
  | _, _ => false

/-- Two lists of values are the same. -/
def beqList : List Value → List Value → Bool
  | [], [] => true
  | a :: as, b :: bs => a.beq b && beqList as bs
  | _, _ => false

/-- Two lists of fields are the same. -/
def beqFields : List (Text × Value) → List (Text × Value) → Bool
  | [], [] => true
  | (k, a) :: as, (l, b) :: bs => k == l && a.beq b && beqFields as bs
  | _, _ => false

end

/-- What counts as true : all but null, false, zero and what is empty. -/
def truthy : Value → Bool
  | .null => false
  | .bool b => b
  | .int n => n != 0
  | .float x =>
    match x.reading with
    | .finite _ m _ => m != 0
    | _ => true
  | .str t => !t.isEmpty
  | .list items => !items.isEmpty
  | .object fields => !fields.isEmpty

/-- The word for the kind of a value. -/
def kindWord : Value → String
  | .null => "NoneType"
  | .bool _ => "bool"
  | .int _ => "int"
  | .float _ => "float"
  | .str _ => "str"
  | .list _ => "list"
  | .object _ => "dict"

end Value

end DtoPress
