/-!
# Spans of time

A span is a count of seconds and a part of a second in nanoseconds. Its text names the largest of
the units `s`, `ms`, `µs` and `ns` that it reaches, with the decimal fraction that remains and no
trailing zeros.
-/

namespace LintRoster

/-- A length of time: whole seconds and the nanoseconds of the last, unfinished second. -/
structure Span where
  secs : Nat
  nanos : Nat
deriving DecidableEq, Repr, Inhabited

namespace Span

/-- A span of whole seconds. -/
def seconds (secs : Nat) : Span :=
  ⟨secs, 0⟩

/-- The span as a count of nanoseconds. -/
def totalNanos (d : Span) : Nat :=
  d.secs * 1000000000 + d.nanos

/-- The last `places` decimal digits of `n`, most significant first. -/
def fractionDigits : Nat → Nat → List Char
  | 0, _ => []
  | places + 1, n => fractionDigits places (n / 10) ++ [Nat.digitChar (n % 10)]

/-- A decimal fraction without trailing zeros, and with its point if any digit is left. -/
def fractionText (places n : Nat) : String :=
  let digits := ((fractionDigits places n).reverse.dropWhile (· == '0')).reverse
  if digits.isEmpty then "" else "." ++ String.ofList digits

/-- An amount in a unit that has `10 ^ places` parts. -/
def amount (whole places part : Nat) (unit : String) : String :=
  toString whole ++ fractionText places part ++ unit

/-- The text of a span, in the largest unit that it reaches. -/
def text (d : Span) : String :=
  if d.secs > 0 then amount d.secs 9 d.nanos "s"
  else if d.nanos ≥ 1000000 then amount (d.nanos / 1000000) 6 (d.nanos % 1000000) "ms"
  else if d.nanos ≥ 1000 then amount (d.nanos / 1000) 3 (d.nanos % 1000) "µs"
  else amount d.nanos 0 0 "ns"

end Span

end LintRoster
