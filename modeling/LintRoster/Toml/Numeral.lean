import LintRoster.Decimal.Binary64
import LintRoster.Text.Digit
import LintRoster.Toml.Line

/-!
# TOML numbers

An integer is decimal with an optional sign, or hexadecimal, octal or binary without one, and fits
64 bits. A fraction has a point, an exponent or both. Single underscores may stand between digits.
-/

namespace LintRoster.Toml.Numeral

/-- Reads digits after a digit, with underscores between them. The digits before are last first. An
underscore must have a digit after it. -/
def digitsAfter (base : Nat) (before : List Nat) : List Char → Step (List Nat)
  | '_' :: c :: rest =>
    match Text.digit? base c with
    | some d => digitsAfter base (d :: before) rest
    | none => .error .malformedNumber
  | c :: rest =>
    match Text.digit? base c with
    | some d => digitsAfter base (d :: before) rest
    | none => if c == '_' then .error .malformedNumber else .ok (before.reverse, c :: rest)
  | [] => .ok (before.reverse, [])

/-- Reads at least one digit, with underscores between digits. -/
def digits (base : Nat) : List Char → Step (List Nat)
  | c :: rest =>
    match Text.digit? base c with
    | some d => digitsAfter base [d] rest
    | none => .error .malformedNumber
  | [] => .error .malformedNumber

/-- The value of digits. -/
def valueOf (base : Nat) (ds : List Nat) : Nat :=
  ds.foldl (fun n d => n * base + d) 0

/-- Reads the whole part of a decimal number: a zero, or digits that do not begin with one. -/
def whole : List Char → Step (List Nat)
  | '0' :: rest => .ok ([0], rest)
  | cs => digits 10 cs

/-- Reads a sign, if there is one. -/
def sign : List Char → Bool × List Char
  | '+' :: rest => (false, rest)
  | '-' :: rest => (true, rest)
  | cs => (false, cs)

/-- Reads the digits behind the point, if there is one. -/
def places : List Char → Step (List Nat)
  | '.' :: rest => digits 10 rest
  | cs => .ok ([], cs)

/-- Reads an exponent, if there is one. Exponents are cut at a bound that no fraction needs. -/
def exponent : List Char → Step Int
  | [] => .ok (0, [])
  | c :: rest =>
    if c == 'e' || c == 'E' then
      let (negative, rest) := sign rest
      match digits 10 rest with
      | .error e => .error e
      | .ok (ds, rest) =>
        let n : Nat := ds.foldl (fun n d => min 100000000 (n * 10 + d)) 0
        .ok (if negative then -(n : Int) else n, rest)
    else .ok (0, c :: rest)

/-- The least and the greatest integer. -/
def integerRange : Int × Int :=
  (-(Nat.pow 2 63 : Nat), (Nat.pow 2 63 : Nat) - 1)

/-- An integer, if it is in range. -/
def integerItem (n : Int) : Except Fault Item :=
  if integerRange.1 ≤ n && n ≤ integerRange.2 then .ok (.integer n) else .error .numberOutOfRange

/-- A fraction, unless it is greater than every number of its format. -/
def fractionItem (negative : Bool) (digits : Nat) (exponent : Int) : Except Fault Item :=
  if Binary64.ofDecimal negative digits exponent == .infinite false then .error .numberOutOfRange
  else .ok .float

/-- Reads a decimal number after its sign. -/
def decimal (negative : Bool) (cs : List Char) : Step Item :=
  match whole cs with
  | .error e => .error e
  | .ok (ds, cs) =>
    match places cs with
    | .error e => .error e
    | .ok (ps, afterPlaces) =>
      match exponent afterPlaces with
      | .error e => .error e
      | .ok (e, rest) =>
        let n := valueOf 10 ds
        let item :=
          if rest.length == cs.length then integerItem (if negative then -(n : Int) else n)
          else fractionItem negative (valueOf 10 (ds ++ ps)) (e - ps.length)
        item.map fun item => (item, rest)

/-- Reads an integer in a base that its mark gives, after the mark. -/
def inBase (base : Nat) (cs : List Char) : Step Item :=
  match digits base cs with
  | .error e => .error e
  | .ok (ds, rest) => (integerItem (valueOf base ds)).map fun item => (item, rest)

/-- Reads a number. -/
def read (cs : List Char) : Step Item :=
  match cs with
  | '0' :: 'x' :: rest => inBase 16 rest
  | '0' :: 'o' :: rest => inBase 8 rest
  | '0' :: 'b' :: rest => inBase 2 rest
  | cs =>
    let (negative, rest) := sign cs
    match rest with
    | 'i' :: 'n' :: 'f' :: rest => .ok (.float, rest)
    | 'n' :: 'a' :: 'n' :: rest => .ok (.float, rest)
    | rest => decimal negative rest

end LintRoster.Toml.Numeral
