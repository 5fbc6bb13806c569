/-!
# Entries in the order of their keys' first appearance

`Entries κ ν` is a list of keys with values. `Entries.put` changes the value of a key that is
there and keeps its place and spelling; a new key goes to the end. Objects, buffered files,
groups of imports and the registry are kept this way.
-/

namespace DtoPress

/-- Keys with values, in the order in which the keys first appeared. -/
abbrev Entries (κ ν : Type) := List (κ × ν)

namespace Entries

variable {κ ν : Type} [BEq κ]

/-- The value of a key. -/
def get? (entries : Entries κ ν) (key : κ) : Option ν :=
  match entries with
  | [] => none
  | (k, v) :: rest => if k == key then some v else get? rest key

/-- The key is there. -/
def has (entries : Entries κ ν) (key : κ) : Bool :=
  (get? entries key).isSome

/-- The value of a key set : in its place if the key is there, else at the end. -/
def put (entries : Entries κ ν) (key : κ) (value : ν) : Entries κ ν :=
  match entries with
  | [] => [(key, value)]
  | (k, v) :: rest => if k == key then (k, value) :: rest else (k, v) :: put rest key value

/-- All of `changes` put one after the other. -/
def putAll (entries changes : Entries κ ν) : Entries κ ν :=
  changes.foldl (fun es c => put es c.1 c.2) entries

omit [BEq κ] in
/-- The keys in order. -/
def keys (entries : Entries κ ν) : List κ :=
  entries.map Prod.fst

end Entries

end DtoPress
