import DtoPress.Value.Order

/-!
# Sorting values

`Value.sort?` puts values in ascending order, equal ones in the order they came in, unless there
are two that cannot be compared. What is not a number is neither below nor above any number, so
that next to it there is no ascending order to speak of; the outcome then hangs on the pairs
that are compared, which are those of `Value.sortByRuns?`.
-/

namespace DtoPress.Value

/-- The values after a value that is compared with each can be compared with it. -/
def allComparable : List Value → Bool
  | [] => true
  | v :: vs => vs.all (fun w => (less? v w).isSome && (less? w v).isSome) && allComparable vs

/-- A value put behind those that are not above it. -/
def insertValue (v : Value) : List Value → List Value
  | [] => [v]
  | w :: ws => if less? v w = some true then v :: w :: ws else w :: insertValue v ws

mutual

/-- What is not a number decides where the value stands among others. -/
def isUnordered : Value → Bool
  | .float x => x.reading == .nan
  | .list items => anyUnordered items
  | _ => false

/-- One of the values is unordered. -/
def anyUnordered : List Value → Bool
  | [] => false
  | v :: vs => v.isUnordered || anyUnordered vs

end

/-! ## Runs and binary insertion -/

/-- The run that goes on from its last value, where each value is below the one before it, or
where none is : the run in reverse, and the values behind it. -/
def runFrom (down : Bool) (run : List Value) (last : Value) :
    List Value → Option (List Value × List Value)
  | [] => some (run, [])
  | v :: vs => do
    if (← less? v last) = down then runFrom down (v :: run) v vs else return (run, v :: vs)

/-- The place of a value among sorted ones between two places, found by halving. -/
def placeOf (v : Value) (sorted : List Value) : Nat → Nat → Nat → Option Nat
  | 0, low, _ => some low
  | fuel + 1, low, high =>
    if low < high then
      let middle := low + (high - low) / 2
      match sorted[middle]? with
      | none => some low
      | some w => do
        if ← less? v w then placeOf v sorted fuel low middle
        else placeOf v sorted fuel (middle + 1) high
    else some low

/-- A value put in its place among sorted ones. -/
def insertByHalves (sorted : List Value) (v : Value) : Option (List Value) := do
  let place ← placeOf v sorted sorted.length 0 sorted.length
  return sorted.take place ++ v :: sorted.drop place

/-- The values sorted by taking the run at the start and inserting the others one by one. -/
def sortByRuns? : List Value → Option (List Value)
  | v :: w :: rest => do
    let down ← less? w v
    let (run, rest) ← runFrom down [w, v] w rest
    rest.foldlM insertByHalves (if down then run else run.reverse)
  | vs => some vs

/-! ## Sorting -/

/-- The values in ascending order, equal ones in the order they came in; none if there are
two that cannot be compared. -/
def sort? (vs : List Value) : Option (List Value) :=
  if anyUnordered vs then sortByRuns? vs
  else if allComparable vs then some (vs.foldl (fun sorted v => insertValue v sorted) [])
  else none

end DtoPress.Value
