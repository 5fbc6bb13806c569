/-!
# Faults

A value of the wrong shape can reach an operation that has no answer for it. `Fault` names
the ways in which this ends a request; a fault has no wording. `Trouble ε` is either such a
fault or an error `ε` with a cause of its own.
-/

namespace DtoPress

/-- The ways in which a value of the wrong shape ends a request. -/
inductive Fault where
  /-- The operation is not defined on values of this kind. -/
  | wrongType
  /-- The value lacks an operation that only values of another kind have. -/
  | noAttribute
  /-- A table has no entry for the value. -/
  | noKey
  /-- The value is of the right kind and still not usable. -/
  | badValue
  /-- The bytes are not text. -/
  | undecodable
  /-- The text has a lone half of a surrogate pair, which no bytes stand for. -/
  | unencodable
  /-- The operating system refused. -/
  | system
  /-- The operation is only declared. -/
  | unsupported
  /-- The number is too large for a length. -/
  | overflow
  /-- The text would not fit into memory. -/
  | memory
  /-- Brackets are nested too deep. -/
  | nesting
  /-- The markup of a text does not fit together. -/
  | markup
  deriving DecidableEq, Repr

/-- What a fault means, for a reader of the program's output. -/
def Fault.description : Fault → String
  | .wrongType => "a value is of the wrong kind"
  | .noAttribute => "a value lacks an operation"
  | .noKey => "a table has no entry for a value"
  | .badValue => "a value is not usable"
  | .undecodable => "a file is not text"
  | .unencodable => "a text has no bytes"
  | .system => "the operating system refused"
  | .unsupported => "an operation is only declared"
  | .overflow => "a number is too large for a length"
  | .memory => "a text would not fit into memory"
  | .nesting => "brackets are nested too deep"
  | .markup => "the markup of a text does not fit together"

/-- An error with a cause, or a fault. -/
inductive Trouble (ε : Type) where
  | cause (e : ε)
  | fault (f : Fault)
  deriving DecidableEq, Repr

namespace Trouble

variable {ε δ α : Type}

/-- The same trouble, its cause seen as one of a wider kind. -/
def map (f : ε → δ) : Trouble ε → Trouble δ
  | .cause e => .cause (f e)
  | .fault g => .fault g

/-- A computation that can only fault, among those that can also fail with a cause. -/
def ofFault (r : Except Fault α) : Except (Trouble ε) α :=
  r.mapError .fault

/-- A computation whose causes are seen as ones of a wider kind. -/
def widen (f : ε → δ) (r : Except (Trouble ε) α) : Except (Trouble δ) α :=
  r.mapError (map f)

end Trouble

end DtoPress
