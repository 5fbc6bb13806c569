import DtoPress.Fault
import DtoPress.Value.Basic

/-!
# Numbers of spaces

A value can stand for a number of spaces : a whole number does, and fewer than none count as
none. `spacesOf` reads the number, and `SpacesError` says why a value is none.
-/

namespace DtoPress

/-- Why a value is no number of spaces. -/
inductive SpacesError where
  /-- It is no whole number, but of the given kind. -/
  | notWhole (kind : String)
  /-- It is beyond all lengths. -/
  | tooLarge
  /-- So many spaces do not fit into memory. -/
  | noMemory
  deriving DecidableEq, Repr

namespace SpacesError

/-- The wording inside a template error. -/
def message : SpacesError → String
  | notWhole kind => s!"can't multiply sequence by non-int of type '{kind}'"
  | tooLarge => "cannot fit 'int' into an index-sized integer"
  | noMemory => ""

/-- The fault outside of templates. -/
def fault : SpacesError → Fault
  | notWhole _ => .wrongType
  | tooLarge => .overflow
  | noMemory => .memory

end SpacesError

/-- The bound on lengths. -/
def lengthLimit : Int := Nat.pow 2 63

/-- The bound on texts that fit into memory. -/
def memoryLimit : Int := Nat.pow 2 36

/-- A whole number as a number of spaces. -/
def spacesOfInt (n : Int) : Except SpacesError Nat :=
  if n < -lengthLimit ∨ lengthLimit ≤ n then .error .tooLarge
  else if memoryLimit ≤ n then .error .noMemory
  else .ok n.toNat

/-- The number of spaces that a value stands for. -/
def spacesOf : Value → Except SpacesError Nat
  | .int n => spacesOfInt n
  | .bool b => .ok (if b then 1 else 0)
  | v => .error (.notWhole v.kindWord)

end DtoPress
