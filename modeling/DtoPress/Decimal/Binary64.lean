/-!
# Binary floating-point numbers

`Binary64` is a 64-bit floating-point number given by its bits, so that equality of numbers
is decidable and nothing hangs on machine arithmetic. `Binary64.class` reads the bits as a
number `m * 2 ^ e`; `Binary64.nearest` finds the number next to a fraction, a tie going to
the even one, and `Binary64.ofDecimal` the one next to a decimal.
-/

namespace DtoPress

/-- A 64-bit floating-point number. -/
structure Binary64 where
  /-- Sign, exponent and fraction, from the top. -/
  bits : UInt64
  deriving DecidableEq, Repr, Inhabited

namespace Binary64

/-- What the bits of a number say. -/
inductive Reading where
  /-- Not a number. -/
  | nan
  /-- An infinity. -/
  | infinite (negative : Bool)
  /-- The number `m * 2 ^ e`, or its negative. -/
  | finite (negative : Bool) (m : Nat) (e : Int)
  deriving DecidableEq, Repr

/-- The number that the bits stand for. -/
def reading (x : Binary64) : Reading :=
  let n := x.bits.toNat
  let negative := n / Nat.pow 2 63 == 1
  let exponent : Nat := n / Nat.pow 2 52 % Nat.pow 2 11
  let fraction : Nat := n % Nat.pow 2 52
  if exponent = 2047 then if fraction = 0 then .infinite negative else .nan
  else if exponent = 0 then .finite negative fraction (-1074)
  else .finite negative (Nat.pow 2 52 + fraction) ((exponent : Int) - 1075)

/-- The number with the given sign, biased exponent and fraction. -/
def assemble (negative : Bool) (exponent fraction : Nat) : Binary64 :=
  ⟨UInt64.ofNat ((if negative then Nat.pow 2 63 else 0) + exponent * Nat.pow 2 52 + fraction)⟩

/-- Not a number. -/
def nan : Binary64 := assemble false 2047 (Nat.pow 2 51)

/-- An infinity. -/
def infinity (negative : Bool) : Binary64 := assemble negative 2047 0

/-- The quotient rounded to the nearest natural number, a tie to the even one. -/
def divNearest (num den : Nat) : Nat :=
  let q := num / den
  let twice := 2 * (num % den)
  if twice < den then q else if den < twice then q + 1 else q + q % 2

/-- The floating-point number next to `num / den`, a tie going to the even one. -/
def nearest (negative : Bool) (num den : Nat) : Binary64 :=
  if num = 0 then assemble negative 0 0
  else
    let scaled (e : Int) : Nat × Nat :=
      if 0 ≤ e then (num, den * Nat.pow 2 e.toNat) else (num * Nat.pow 2 (-e).toNat, den)
    let guess : Int := (num.log2 : Int) - den.log2 - 52
    let exact : Int := if (scaled guess).1 < (scaled guess).2 * Nat.pow 2 52 then guess - 1 else guess
    let e : Int := max (-1074) exact
    let m := divNearest (scaled e).1 (scaled e).2
    let carried := m = Nat.pow 2 53
    let m := if carried then Nat.pow 2 52 else m
    let e := if carried then e + 1 else e
    if m < Nat.pow 2 52 then assemble negative 0 m
    else if 2047 ≤ e + 1075 then infinity negative
    else assemble negative (e + 1075).toNat (m - Nat.pow 2 52)

/-- The number of decimal digits of a natural number, one for zero. -/
def digitCount (n : Nat) : Nat :=
  (Nat.toDigits 10 n).length

/-- The floating-point number next to `digits * 10 ^ exponent`. -/
def ofDecimal (negative : Bool) (digits : Nat) (exponent : Int) : Binary64 :=
  if digits = 0 then assemble negative 0 0
  else if (digitCount digits : Int) + exponent > 400 then infinity negative
  else if (digitCount digits : Int) + exponent < -400 then assemble negative 0 0
  else if 0 ≤ exponent then nearest negative (digits * Nat.pow 10 exponent.toNat) 1
  else nearest negative digits (Nat.pow 10 (-exponent).toNat)

end Binary64

end DtoPress
