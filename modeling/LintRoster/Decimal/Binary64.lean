/-!
# Binary fractions of 64 bits

A finite number of the format has a sign, a mantissa below `2 ^ 53` and a power of two. A decimal
fraction is read as the nearest such number, and a value halfway between two becomes the one with
an even mantissa.
-/

namespace LintRoster

/-- The magnitude of a finite number: `mantissa * 2 ^ exponent`. -/
structure Magnitude where
  mantissa : Nat
  exponent : Int
deriving DecidableEq, Repr

/-- A number of the format. There is only one number that is none. -/
inductive Binary64 where
  | nan
  | infinite (negative : Bool)
  | finite (negative : Bool) (magnitude : Magnitude)
deriving DecidableEq, Repr

namespace Magnitude

/-- One more than the greatest mantissa. -/
def limit : Nat := Nat.pow 2 53

/-- The least exponent. -/
def minExponent : Int := -1074

/-- The greatest exponent. -/
def maxExponent : Int := 971

/-- The magnitude of zero. -/
def zero : Magnitude :=
  ⟨0, minExponent⟩

/-- The quotient rounded to the nearest integer, a half to the even one. -/
def roundHalfEven (num den : Nat) : Nat :=
  let q := num / den
  let r := num % den
  if 2 * r < den then q else if den < 2 * r then q + 1 else q + q % 2

/-- The quotient `num / (den * 2 ^ shift)` as a fraction of natural numbers. -/
def scaled (num den : Nat) (shift : Int) : Nat × Nat :=
  if shift ≥ 0 then (num, den * Nat.pow 2 shift.toNat)
  else (num * Nat.pow 2 (-shift).toNat, den)

/-- Whether `num / den` is at least `2 ^ e`. -/
def atLeastPower (num den : Nat) (e : Int) : Bool :=
  let (n, d) := scaled num den e
  d ≤ n

/-- The greatest `e` such that the positive fraction `num / den` is at least `2 ^ e`. -/
def binaryExponent (num den : Nat) : Int :=
  let e : Int := (num.log2 : Int) - den.log2
  if atLeastPower num den e then e else e - 1

/-- The magnitude nearest to a fraction, unless it is too great. -/
def ofFraction? (num den : Nat) : Option Magnitude :=
  if num = 0 then some zero
  else
    let e := max (binaryExponent num den - 52) minExponent
    let (n, d) := scaled num den e
    let m := roundHalfEven n d
    let r : Magnitude := if m = limit then ⟨Nat.pow 2 52, e + 1⟩ else ⟨m, e⟩
    if r.exponent > maxExponent then none else some r

/-- The number of decimal digits of a natural number. -/
def digitCount (n : Nat) : Nat :=
  (Nat.toDigits 10 n).length

/-- The magnitude nearest to `digits * 10 ^ exponent`, unless it is too great. Powers of ten that
are far out of range are settled without computing them. -/
def ofDecimal? (digits : Nat) (exponent : Int) : Option Magnitude :=
  let order := exponent + digitCount digits
  if digits = 0 || order < -330 then some zero
  else if order > 310 then none
  else if exponent ≥ 0 then ofFraction? (digits * Nat.pow 10 exponent.toNat) 1
  else ofFraction? digits (Nat.pow 10 (-exponent).toNat)

end Magnitude

namespace Binary64

/-- The number nearest to a decimal fraction. Fractions that are too great become infinite. -/
def ofDecimal (negative : Bool) (digits : Nat) (exponent : Int) : Binary64 :=
  match Magnitude.ofDecimal? digits exponent with
  | some m => .finite negative m
  | none => .infinite negative

/-- Whether a number is finite. -/
def isFinite : Binary64 → Bool
  | .finite _ _ => true
  | _ => false

/-- Whether two numbers are the same key: both zeros are one, and the number that is none is
itself. -/
def sameKey : Binary64 → Binary64 → Bool
  | .finite a x, .finite b y => x == y && (a == b || x.mantissa == 0)
  | a, b => a == b

end Binary64

end LintRoster
