import LintRoster.Decimal.Shortest

/-!
# The text of numbers

A layout says from which orders of magnitude on a number is written with an exponent. Positional
notation always has a digit on both sides of the point.
-/

namespace LintRoster

/-- How numbers are written. A number whose first digit stands `n` places before the point, with
`n` from `low` to `high`, is written positionally, any other with an exponent. -/
structure NumberLayout where
  low : Int
  high : Int
deriving Repr

namespace NumberLayout

/-- The text of a positive decimal fraction. -/
def fraction (layout : NumberLayout) (x : DecimalFraction) : String :=
  let digits := Nat.toDigits 10 x.digits
  let order : Int := x.exponent + digits.length
  let chars : List Char :=
    if x.exponent ≥ 0 ∧ order ≤ layout.high then
      digits ++ List.replicate x.exponent.toNat '0' ++ ['.', '0']
    else if 0 < order ∧ order ≤ layout.high then
      digits.take order.toNat ++ '.' :: digits.drop order.toNat
    else if layout.low ≤ order ∧ order ≤ 0 then
      '0' :: '.' :: (List.replicate (-order).toNat '0' ++ digits)
    else
      let mantissa :=
        match digits with
        | d :: d' :: ds => d :: '.' :: d' :: ds
        | ds => ds
      mantissa ++ 'e' :: (toString (order - 1)).toList
  String.ofList chars

/-- The text of a magnitude. -/
def magnitude (layout : NumberLayout) (x : Magnitude) : String :=
  if x.mantissa = 0 then "0.0" else layout.fraction x.shortest

end NumberLayout

end LintRoster
