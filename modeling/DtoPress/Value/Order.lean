import DtoPress.Value.Basic

/-!
# Equality and order of values

Values are compared by what they stand for : `true`, `1` and `1.0` are equal, and two objects
with the same fields are equal whatever the order of the fields. `Value.canonical` picks one
value for each class, so `Value.same` is an equivalence by construction. `Value.less?` is the
order used for sorting; it is defined between numbers, between texts and between lists, and
has no answer for other pairs.
-/

namespace DtoPress.Value

/-- The whole number that a floating-point number is, if it is one. -/
def wholeNumber? (x : Binary64) : Option Int :=
  match x.reading with
  | .finite negative m e =>
    let magnitude : Option Nat :=
      if 0 ≤ e then some (m * Nat.pow 2 e.toNat)
      else if m % Nat.pow 2 (-e).toNat = 0 then some (m / Nat.pow 2 (-e).toNat)
      else none
    magnitude.map fun n => if negative then -(n : Int) else n
  | _ => none

/-- A field put in its place among fields sorted by key. -/
def insertSorted (f : Text × Value) : List (Text × Value) → List (Text × Value)
  | [] => [f]
  | g :: gs => if f.1 < g.1 then f :: g :: gs else g :: insertSorted f gs

mutual

/-- The value that stands for all values equal to a given one. -/
def canonical : Value → Value
  | .bool b => .int (if b then 1 else 0)
  | .float x => match wholeNumber? x with
    | some n => .int n
    | none => .float x
  | .list items => .list (canonicalItems items)
  | .object fields => .object (canonicalFields fields)
  | v => v

/-- The items of a list, each made canonical. -/
def canonicalItems : List Value → List Value
  | [] => []
  | v :: vs => v.canonical :: canonicalItems vs

/-- The fields of an object, each made canonical, sorted by key. -/
def canonicalFields : List (Text × Value) → List (Text × Value)
  | [] => []
  | (k, v) :: rest => insertSorted (k, v.canonical) (canonicalFields rest)

end

/-- Two values are the same, or equal to each other. -/
def same (a b : Value) : Bool :=
  a.canonical.beq b.canonical

instance : BEq Value := ⟨same⟩

/-- Two values are equal. What is not a number is not equal to itself. -/
def equals (a b : Value) : Bool :=
  match a with
  | .float x => x.reading != .nan && same a b
  | _ => same a b

/-- A value that can be a member of a set : all but lists and objects. -/
def isKey : Value → Bool
  | .list _ => false
  | .object _ => false
  | _ => true

/-- A number on the extended line, for comparison : finite ones as `n * 2 ^ e`. -/
inductive Magnitude where
  | nan
  | infinite (negative : Bool)
  | finite (n : Int) (e : Int)

/-- The number that a value is, if it is one. -/
def magnitude? : Value → Option Magnitude
  | .bool b => some (.finite (if b then 1 else 0) 0)
  | .int n => some (.finite n 0)
  | .float x => some <| match x.reading with
    | .nan => .nan
    | .infinite negative => .infinite negative
    | .finite negative m e => .finite (if negative then -(m : Int) else m) e
  | _ => none

/-- One number is below another. -/
def Magnitude.below : Magnitude → Magnitude → Bool
  | .nan, _ => false
  | _, .nan => false
  | .infinite a, .infinite b => a && !b
  | .infinite a, .finite _ _ => a
  | .finite _ _, .infinite b => !b
  | .finite n e, .finite m f =>
    let least := min e f
    n * Nat.pow 2 (e - least).toNat < m * Nat.pow 2 (f - least).toNat

mutual

/-- Whether one value is below another, where the two can be compared. -/
def less? : Value → Value → Option Bool
  | .str a, .str b => some (a < b)
  | .list as, .list bs => lessItems? as bs
  | a, b => match magnitude? a, magnitude? b with
    | some x, some y => some (x.below y)
    | _, _ => none

/-- Lists are compared by their first items that differ, and by length if none do. -/
def lessItems? : List Value → List Value → Option Bool
  | [], bs => some !bs.isEmpty
  | _ :: _, [] => some false
  | a :: as, b :: bs => if same a b then lessItems? as bs else less? a b

end

end DtoPress.Value
