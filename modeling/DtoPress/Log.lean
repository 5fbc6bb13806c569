import DtoPress.Text.Basic

/-!
# Log records

What a run reports besides its result : records with a level, in the order in which they were
made. A reader of the log sees the records from some level up.
-/

namespace DtoPress

/-- The level of a record. -/
inductive Level where
  | debug
  | info
  | warning
  | error
  deriving DecidableEq, Repr

namespace Level

/-- The word for a level. -/
def word : Level → String
  | .debug => "DEBUG"
  | .info => "INFO"
  | .warning => "WARNING"
  | .error => "ERROR"

/-- The rank of a level. -/
def rank : Level → Nat
  | .debug => 0
  | .info => 1
  | .warning => 2
  | .error => 3

/-- All levels, from the lowest up. -/
def all : List Level := [.debug, .info, .warning, .error]

/-- The level for a word. -/
def ofWord? (word : Text) : Option Level :=
  all.find? fun l => l.word == word

end Level

/-- One record. -/
structure Record where
  level : Level
  message : Text
  deriving DecidableEq, Repr

/-- Records in order. -/
abbrev Log := List Record

/-- The records from a level up. -/
def Log.atLeast (log : Log) (level : Level) : Log :=
  log.filter fun r => level.rank ≤ r.level.rank

end DtoPress
