import LintRoster.Decimal.Binary64
import LintRoster.Text.Digit

/-!
# Numbers at the front of a text

A number is read as far as the text goes on with one: a sign, digits with a point and an exponent, be
they decimal or hexadecimal, or the name of a value that is not finite.
-/

namespace LintRoster

/-- A number at the front of a text, whether it could be represented, and what follows it. -/
structure ScannedNumber where
  negative : Bool
  value : Binary64
  fits : Bool
  rest : List Char

namespace ScannedNumber

/-- The value of the digits at the front, after `n`, their number, and what follows. -/
def digits (base : Nat) : Nat → Nat → List Char → Nat × Nat × List Char
  | n, count, [] => (n, count, [])
  | n, count, c :: cs =>
    match Text.digit? base c with
    | some d => digits base (n * base + d) (count + 1) cs
    | none => (n, count, c :: cs)

/-- Digits with a point: their value as a whole, how many of them there are, how many of these stand
behind the point, and what follows. -/
def pointed (base : Nat) (cs : List Char) : Nat × Nat × Nat × List Char :=
  let (n, before, rest) := digits base 0 0 cs
  match rest with
  | '.' :: after =>
    let (m, count, rest') := digits base n before after
    if count == 0 then (n, 0, 0, rest) else (m, count, count - before, rest')
  | rest => (n, before, 0, rest)

/-- An exponent after its letter, which counts only if digits follow. -/
def exponent (letter : Char) (cs : List Char) : Int × List Char :=
  match cs with
  | c :: rest =>
    if c.toLower != letter then (0, cs)
    else
      let (negative, ds) :=
        match rest with
        | '-' :: ds => (true, ds)
        | '+' :: ds => (false, ds)
        | ds => (false, ds)
      let (n, count, after) := digits 10 0 0 ds
      if count == 0 then (0, cs) else (if negative then -(n : Int) else n, after)
  | [] => (0, [])

/-- The number `n * 2 ^ e`. Powers that are far out of range are settled without computing them. -/
def ofPower (negative : Bool) (n : Nat) (e : Int) : Binary64 :=
  let order : Int := n.log2 + e
  let magnitude :=
    if n == 0 || order < -1200 then some Magnitude.zero
    else if order > 1100 then none
    else if e ≥ 0 then Magnitude.ofFraction? (n * Nat.pow 2 e.toNat) 1
    else Magnitude.ofFraction? n (Nat.pow 2 (-e).toNat)
  match magnitude with
  | some m => .finite negative m
  | none => .infinite negative

/-- Whether a value stands well for `n` times some power: it is finite, and not too small for all its
digits. -/
def isFaithful (n : Nat) : Binary64 → Bool
  | .finite _ m => n == 0 || m.mantissa ≥ Nat.pow 2 52
  | _ => false

/-- A hexadecimal number after its mark. -/
def hexadecimal? (negative : Bool) (cs : List Char) : Option ScannedNumber :=
  let (n, count, behind, rest) := pointed 16 cs
  if count == 0 then none
  else
    let (e, rest) := exponent 'p' rest
    let value := ofPower negative n (e - 4 * behind)
    some ⟨negative, value, isFaithful n value, rest⟩

/-- A decimal number. -/
def decimal? (negative : Bool) (cs : List Char) : Option ScannedNumber :=
  let (n, count, behind, rest) := pointed 10 cs
  if count == 0 then none
  else
    let (e, rest) := exponent 'e' rest
    let value := Binary64.ofDecimal negative n (e - behind)
    some ⟨negative, value, isFaithful n value, rest⟩

/-- What follows a name at the front, in letters of either case. -/
def named? (name : String) (cs : List Char) : Option (List Char) :=
  if (cs.take name.length).map Char.toLower == name.toList then some (cs.drop name.length)
  else none

/-- A number without a sign. -/
def unsigned? (negative : Bool) (cs : List Char) : Option ScannedNumber :=
  let hexadecimal :=
    match cs with
    | '0' :: x :: rest => if x == 'x' || x == 'X' then hexadecimal? negative rest else none
    | _ => none
  let infinite (rest : List Char) : ScannedNumber := ⟨negative, .infinite negative, true, rest⟩
  hexadecimal <|> decimal? negative cs <|>
    ((named? "infinity" cs).map infinite <|> (named? "inf" cs).map infinite) <|>
    (named? "nan" cs).map fun rest => ⟨negative, .nan, true, rest⟩

/-- The number at the front of a text, after blanks and a sign. -/
def scan? (cs : List Char) : Option ScannedNumber :=
  match cs.dropWhile fun c => c == ' ' || (9 ≤ c.toNat && c.toNat ≤ 13) with
  | '-' :: cs => unsigned? true cs
  | '+' :: cs => unsigned? false cs
  | cs => unsigned? false cs

end ScannedNumber

end LintRoster
