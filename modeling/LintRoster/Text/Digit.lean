/-!
# Digits

The values of digits and of runs of digits in a base up to sixteen, and the characters that
hexadecimal digits name by their code points.
-/

namespace LintRoster.Text

/-- The value of a digit in a base up to sixteen. -/
def digit? (base : Nat) (c : Char) : Option Nat :=
  let d? :=
    if c.isDigit then some (c.toNat - 0x30)
    else if 'a' ≤ c && c ≤ 'f' then some (c.toNat - 0x61 + 10)
    else if 'A' ≤ c && c ≤ 'F' then some (c.toNat - 0x41 + 10)
    else none
  d?.filter fun d => d < base

/-- The value of digits after digits with the value `n`. -/
def digitsValue? (base n : Nat) : List Char → Option Nat
  | [] => some n
  | c :: cs => (digit? base c).bind fun d => digitsValue? base (n * base + d) cs

/-- The value of at least one digit. -/
def natural? (base : Nat) (cs : List Char) : Option Nat :=
  if cs.isEmpty then none else digitsValue? base 0 cs

/-- The character with a code point, which is no surrogate. -/
def charOfCode? (n : Nat) : Option Char :=
  if h : n.isValidChar then some (Char.ofNatAux n h) else none

/-- The character that exactly `count` hexadecimal digits at the start of a list name. -/
def codeChar? (count : Nat) (cs : List Char) : Option Char :=
  if cs.length < count then none else (digitsValue? 16 0 (cs.take count)).bind charOfCode?

end LintRoster.Text
