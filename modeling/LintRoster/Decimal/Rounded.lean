import LintRoster.Decimal.Shortest

/-!
# Rounded decimal fractions

A value with a fixed number of decimal places, or of digits behind the first one. A value halfway
between two becomes the one with an even last digit. `NumberStyle.text` writes a value in one of the
styles in which tables of numbers are written.
-/

namespace LintRoster

namespace Magnitude

/-- A value in units of `10 ^ e`, rounded to the nearest. -/
def roundUnits (v : Quotient) (e : Int) : Nat :=
  if e ≥ 0 then roundHalfEven v.1 (v.2 * Nat.pow 10 e.toNat)
  else roundHalfEven (v.1 * Nat.pow 10 (-e).toNat) v.2

/-- The decimal digits of a number, of which there are at least `count`. -/
def paddedDigits (count n : Nat) : List Char :=
  let ds := Nat.toDigits 10 n
  List.replicate (count - ds.length) '0' ++ ds

/-- Digits with a point in front of the last ones. Without any digits behind it the point is left out,
unless `keepsPoint` is set. -/
def withPoint (keepsPoint : Bool) (places : Nat) (ds : List Char) : List Char :=
  let whole := ds.take (ds.length - places)
  if places == 0 && !keepsPoint then whole else whole ++ '.' :: ds.drop (ds.length - places)

/-- A value with a number of decimal places. -/
def fixed (keepsPoint : Bool) (places : Nat) (v : Quotient) : List Char :=
  withPoint keepsPoint places (paddedDigits (places + 1) (roundUnits v (-(places : Int))))

/-- The digits of a value, of which `places` stand behind the first one, and the power of ten of the
first one. -/
def scientific (places : Nat) (v : Quotient) : List Char × Int :=
  if v.1 == 0 then (List.replicate (places + 1) '0', 0)
  else
    let e := decimalOrder v - 1
    let ds := Nat.toDigits 10 (roundUnits v (e - places))
    if ds.length > places + 1 then (ds.dropLast, e + 1) else (ds, e)

/-- An exponent with its sign and at least two digits. -/
def exponentText (e : Int) : List Char :=
  (if e < 0 then '-' else '+') :: paddedDigits 2 e.natAbs

/-- Digits with a point without the zeros behind the last other digit. -/
def withoutLastZeros (ds : List Char) : List Char :=
  if ds.contains '.' then
    ((ds.reverse.dropWhile (· == '0')).dropWhile (· == '.')).reverse
  else ds

/-- The hexadecimal digits of a number, of which there are `count`. -/
def hexDigits (count n : Nat) : List Char :=
  let ds := Nat.toDigits 16 n
  List.replicate (count - ds.length) '0' ++ ds

/-- A magnitude with hexadecimal digits and a power of two. -/
def hexadecimal (keepsPoint : Bool) (places : Option Nat) (x : Magnitude) : List Char :=
  let shift := 52 - x.mantissa.log2
  let m := if x.mantissa == 0 then 0 else x.mantissa * Nat.pow 2 shift
  let e : Int := if x.mantissa == 0 then 0 else x.exponent - shift + 52
  let full := hexDigits 14 m
  let ds :=
    match places with
    | none =>
      full.take 1 ++ ((full.drop 1).reverse.dropWhile (· == '0')).reverse
    | some p =>
      if p ≥ 13 then full ++ List.replicate (p - 13) '0'
      else hexDigits (p + 1) (roundHalfEven m (Nat.pow 16 (13 - p)))
  let sign := if e < 0 then '-' else '+'
  '0' :: 'x' :: withPoint keepsPoint (ds.length - 1) ds ++ 'p' :: sign :: Nat.toDigits 10 e.natAbs

end Magnitude

/-- The styles in which numbers are written. -/
inductive NumberStyle where
  | fixed
  | scientific
  /-- Whichever of the other two is apt, with a number of digits in all. -/
  | general
  | hexadecimal
deriving DecidableEq, Repr

namespace NumberStyle

/-- The digits behind the point that are written unless something else is asked for. -/
def usualPlaces : Nat :=
  6

/-- A value with an exponent. -/
def scientificText (keepsPoint : Bool) (places : Nat) (v : Magnitude.Quotient) : List Char :=
  let (ds, e) := Magnitude.scientific places v
  Magnitude.withPoint keepsPoint places ds ++ 'e' :: Magnitude.exponentText e

/-- A value with a number of digits in all. -/
def generalText (alternate : Bool) (digits : Nat) (v : Magnitude.Quotient) : List Char :=
  let (ds, e) := Magnitude.scientific (digits - 1) v
  let tidy (cs : List Char) : List Char :=
    if alternate then cs else Magnitude.withoutLastZeros cs
  if -4 ≤ e && e < digits then tidy (Magnitude.fixed alternate (digits - 1 - e).toNat v)
  else
    tidy (Magnitude.withPoint alternate (digits - 1) ds) ++ 'e' :: Magnitude.exponentText e

/-- A magnitude in a style. -/
def text (style : NumberStyle) (alternate : Bool) (places : Option Nat) (x : Magnitude) :
    List Char :=
  let v := x.toQuotient
  match style with
  | fixed => Magnitude.fixed alternate (places.getD usualPlaces) v
  | scientific => scientificText alternate (places.getD usualPlaces) v
  | general => generalText alternate (max 1 (places.getD usualPlaces)) v
  | hexadecimal => Magnitude.hexadecimal alternate places x

end NumberStyle

end LintRoster
