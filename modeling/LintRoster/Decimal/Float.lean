import LintRoster.Decimal.Binary64

/-!
# Numbers to calculate with

Calculations are done with `Float`. Its numbers are those of `Binary64`, which knows how they are
written and read.
-/

namespace LintRoster.Binary64

/-- The number of a pattern of 64 bits: a sign, eleven bits of exponent, and a mantissa whose first
bit is not written. -/
def ofBits (bits : Nat) : Binary64 :=
  let negative := Nat.pow 2 63 ≤ bits
  let exponent := bits / Nat.pow 2 52 % 2048
  let mantissa := bits % Nat.pow 2 52
  if exponent == 2047 then (if mantissa == 0 then .infinite negative else .nan)
  else if exponent == 0 then .finite negative ⟨mantissa, Magnitude.minExponent⟩
  else .finite negative ⟨mantissa + Nat.pow 2 52, (exponent : Int) - 1075⟩

/-- The number that a calculation gave. -/
def ofFloat (x : Float) : Binary64 :=
  ofBits x.toBits.toNat

/-- The number to calculate with. -/
def toFloat : Binary64 → Float
  | .nan => 0.0 / 0.0
  | .infinite negative => if negative then -1.0 / 0.0 else 1.0 / 0.0
  | .finite negative m =>
    let x := (Float.ofNat m.mantissa).scaleB m.exponent
    if negative then -x else x

/-- The integer between a number and zero that is nearest to it. Only finite numbers have one. -/
def truncated? : Binary64 → Option Int
  | .finite negative m =>
    let n :=
      if 0 ≤ m.exponent then m.mantissa * Nat.pow 2 m.exponent.toNat
      else m.mantissa / Nat.pow 2 (-m.exponent).toNat
    some (if negative then -(n : Int) else n)
  | _ => none

/-- The integer that a number is, if it is one. -/
def integer? (x : Binary64) : Option Int :=
  match x with
  | .finite _ m =>
    let isWhole := 0 ≤ m.exponent || m.mantissa % Nat.pow 2 (-m.exponent).toNat == 0
    if isWhole then x.truncated? else none
  | _ => none

end LintRoster.Binary64
