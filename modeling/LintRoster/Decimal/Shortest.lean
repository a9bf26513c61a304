import LintRoster.Decimal.Binary64

/-!
# Shortest decimal fractions

Among the decimal fractions that are read as a given magnitude, `Magnitude.shortest` chooses one
with the fewest digits, of these the nearest, and of two that are equally near the one with an even
last digit. All tests are exact comparisons of natural numbers.
-/

namespace LintRoster

/-- A decimal fraction: `digits * 10 ^ exponent`. -/
structure DecimalFraction where
  digits : Nat
  exponent : Int
deriving DecidableEq, Repr

namespace DecimalFraction

/-- The fraction as a quotient of natural numbers. -/
def toQuotient (x : DecimalFraction) : Nat × Nat :=
  if x.exponent ≥ 0 then (x.digits * Nat.pow 10 x.exponent.toNat, 1)
  else (x.digits, Nat.pow 10 (-x.exponent).toNat)

/-- The fraction without trailing zeros, of which `fuel` may be dropped. -/
def dropZeros : Nat → DecimalFraction → DecimalFraction
  | 0, x => x
  | fuel + 1, x =>
    if x.digits ≠ 0 ∧ x.digits % 10 = 0 then dropZeros fuel ⟨x.digits / 10, x.exponent + 1⟩ else x

end DecimalFraction

namespace Magnitude

/-- A quotient of natural numbers. -/
abbrev Quotient := Nat × Nat

/-- Whether one quotient is less than another. -/
def Quotient.lt (a b : Quotient) : Bool :=
  a.1 * b.2 < b.1 * a.2

/-- The value `m * 2 ^ e` as a quotient. -/
def powerQuotient (m : Nat) (e : Int) : Quotient :=
  if e ≥ 0 then (m * Nat.pow 2 e.toNat, 1) else (m, Nat.pow 2 (-e).toNat)

/-- The value of a magnitude. -/
def toQuotient (x : Magnitude) : Quotient :=
  powerQuotient x.mantissa x.exponent

/-- The lower end of the values that are read as a magnitude: halfway to the one before. -/
def lowerEnd (x : Magnitude) : Quotient :=
  if x.mantissa = Nat.pow 2 52 ∧ x.exponent > minExponent then
    powerQuotient (4 * x.mantissa - 1) (x.exponent - 2)
  else powerQuotient (2 * x.mantissa - 1) (x.exponent - 1)

/-- The upper end of the values that are read as a magnitude: halfway to the next one. -/
def upperEnd (x : Magnitude) : Quotient :=
  powerQuotient (2 * x.mantissa + 1) (x.exponent - 1)

/-- Whether a value is read as the magnitude. The ends are if the mantissa is even. -/
def reads (x : Magnitude) (v : Quotient) : Bool :=
  if x.mantissa % 2 = 0 then !v.lt x.lowerEnd && !x.upperEnd.lt v
  else x.lowerEnd.lt v && v.lt x.upperEnd

/-- The number of places by which a positive value below one has to be moved to the left of the
point, found by trying. -/
def leadingZeros : Nat → Quotient → Nat
  | 0, _ => 0
  | fuel + 1, v => if v.1 < v.2 then leadingZeros fuel (v.1 * 10, v.2) + 1 else 0

/-- The least `k` such that a positive value is below `10 ^ k`. -/
def decimalOrder (v : Quotient) : Int :=
  if v.2 ≤ v.1 then digitCount (v.1 / v.2) else 1 - leadingZeros 400 v

/-- The value in units of `10 ^ e`, rounded down. -/
def floorUnits (v : Quotient) (e : Int) : Nat :=
  if e ≥ 0 then v.1 / (v.2 * Nat.pow 10 e.toNat)
  else v.1 * Nat.pow 10 (-e).toNat / v.2

/-- The fraction nearest to a magnitude among its two neighbours in units of `10 ^ e`, if one of
them is read as the magnitude. -/
def nearestAt? (x : Magnitude) (e : Int) : Option DecimalFraction :=
  let v := x.toQuotient
  let below : DecimalFraction := ⟨floorUnits v e, e⟩
  let above : DecimalFraction := ⟨below.digits + 1, e⟩
  let middle : DecimalFraction := ⟨below.digits * 10 + 5, e - 1⟩
  match x.reads below.toQuotient, x.reads above.toQuotient with
  | false, false => none
  | true, false => some below
  | false, true => some above
  | true, true =>
    if v.lt middle.toQuotient then some below
    else if Quotient.lt middle.toQuotient v then some above
    else some (if below.digits % 2 = 0 then below else above)

/-- The first fraction that is found while the number of digits grows by `fuel` from one that makes
units of `10 ^ e`. -/
def shortestFrom (x : Magnitude) : Nat → Int → DecimalFraction
  | 0, e => ⟨floorUnits x.toQuotient e, e⟩
  | fuel + 1, e => (x.nearestAt? e).getD (shortestFrom x fuel (e - 1))

/-- The shortest decimal fraction that is read as the magnitude. No more than 17 digits are
needed. -/
def shortest (x : Magnitude) : DecimalFraction :=
  if x.mantissa = 0 then ⟨0, 0⟩
  else (shortestFrom x 17 (decimalOrder x.toQuotient - 1)).dropZeros 20

end Magnitude

end LintRoster
