import DtoPress.Decimal.Binary64

/-!
# Shortest decimals

`shortest` finds the decimal with the fewest digits that reads back as a given positive
floating-point number, and of those the one nearest to it. `Binary64.text` writes it :
positional from `0.0001` up to sixteen digits before the point, else with an exponent of at
least two digits; a whole number keeps `.0`.
-/

namespace DtoPress.Binary64

/-- The decimal exponent `d` of a positive fraction : `10 ^ (d - 1) ≤ num / den < 10 ^ d`. -/
def decimalExponent (num den : Nat) : Int :=
  if den ≤ num then digitCount (num / den)
  else 1 - (digitCount ((den + num - 1) / num - 1) : Int)

/-- The reals that read as the number `m * 2 ^ e` lie between these fractions over the given
denominator, the ends included iff `m` is even; the middle one is the number itself. -/
def roundingInterval (m : Nat) (e : Int) : Nat × Nat × Nat × Nat :=
  let lower := if m = Nat.pow 2 52 ∧ -1074 < e then 1 else 2
  if 0 ≤ e then
    let u := Nat.pow 2 e.toNat
    ((4 * m - lower) * u, 4 * m * u, (4 * m + 2) * u, 4)
  else (4 * m - lower, 4 * m, 4 * m + 2, 4 * Nat.pow 2 (-e).toNat)

/-- The point with `n` digits that is nearest to the number among those that read back as
it : its digits and the exponent of their last place. -/
def onGrid (m : Nat) (e : Int) (d : Int) (n : Nat) : Option (Nat × Int) :=
  let (low, mid, high, den) := roundingInterval m e
  let k := d - n
  let up := Nat.pow 10 k.toNat
  let down := Nat.pow 10 (-k).toNat
  let inside (c : Nat) : Bool :=
    let x := c * up * den
    if m % 2 = 0 then low * down ≤ x && x ≤ high * down else low * down < x && x < high * down
  let floor := mid * down / (den * up)
  let nearer := divNearest (mid * down) (den * up)
  let other := if nearer = floor then floor + 1 else floor
  if inside nearer then some (nearer, k)
  else if inside other then some (other, k)
  else none

/-- The shortest decimal that reads back as `m * 2 ^ e`, found on the first grid of at most
`17` digits that has one. -/
def shortest (m : Nat) (e : Int) : Nat × Int :=
  let d :=
    if 0 ≤ e then decimalExponent (m * Nat.pow 2 e.toNat) 1
    else decimalExponent m (Nat.pow 2 (-e).toNat)
  ((List.range 17).findSome? fun n => onGrid m e d (n + 1)).getD (0, 0)

/-- Digits without the zeros at their end, and the exponent of their last place. -/
def dropZeros : Nat → Nat → Int → Nat × Int
  | 0, digits, k => (digits, k)
  | fuel + 1, digits, k =>
    if digits % 10 = 0 ∧ digits ≠ 0 then dropZeros fuel (digits / 10) (k + 1) else (digits, k)

/-- `digits * 10 ^ k` written out. -/
def writeDecimal (digits : Nat) (k : Int) : String :=
  let (digits, k) := dropZeros 20 digits k
  let ds := Nat.toDigits 10 digits
  let point : Int := ds.length + k
  let zeros (n : Int) := List.replicate n.toNat '0'
  if -4 < point ∧ point ≤ 16 then
    String.ofList <|
      if point ≤ 0 then '0' :: '.' :: zeros (-point) ++ ds
      else if (ds.length : Int) ≤ point then ds ++ zeros (point - ds.length) ++ ['.', '0']
      else ds.take point.toNat ++ '.' :: ds.drop point.toNat
  else
    let exponent := point - 1
    let places := Nat.toDigits 10 exponent.natAbs
    let places := if places.length < 2 then '0' :: places else places
    String.ofList <|
      (match ds with
        | [d] => [d]
        | ds => ds.take 1 ++ '.' :: ds.drop 1)
      ++ 'e' :: (if exponent < 0 then '-' else '+') :: places

/-- The number written out. -/
def text (x : Binary64) : String :=
  match x.reading with
  | .nan => "nan"
  | .infinite negative => if negative then "-inf" else "inf"
  | .finite negative m e =>
    (if negative then "-" else "") ++
      if m = 0 then "0.0" else let (digits, k) := shortest m e; writeDecimal digits k

end DtoPress.Binary64
