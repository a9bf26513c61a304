import LintRoster.Text.Digit

/-!
# Numerals of the shell

A numeral is read from the front of a text: blanks, a sign and digits. Its value is an integer of 64
bits; a value that does not fit becomes the nearest one that does.
-/

namespace LintRoster.Shell

/-- A numeral at the front of a text, and what follows it. -/
structure Numeral where
  value : Int
  fits : Bool
  hasDigits : Bool
  rest : List Char
deriving Repr

namespace Numeral

/-- The blanks around numerals. -/
def isBlank (c : Char) : Bool :=
  [' ', '\t', '\n', '\x0b', '\x0c', '\r'].contains c

/-- The least integer of 64 bits. -/
def least : Int :=
  -9223372036854775808

/-- The greatest integer of 64 bits. -/
def greatest : Int :=
  9223372036854775807

/-- The value of the digits at the front, after digits with the value `n`, and what follows. -/
def digits (base n : Nat) : List Char → Nat × List Char
  | [] => (n, [])
  | c :: cs =>
    match Text.digit? base c with
    | some d => digits base (n * base + d) cs
    | none => (n, c :: cs)

/-- The base that a numeral announces, and its digits. -/
def announced (cs : List Char) : Nat × List Char :=
  match cs with
  | '0' :: x :: d :: rest =>
    if (x == 'x' || x == 'X') && (Text.digit? 16 d).isSome then (16, d :: rest) else (8, cs)
  | '0' :: _ => (8, cs)
  | cs => (10, cs)

/-- The numeral of the digits at the front, with a sign. -/
def ofDigits (base : Nat) (negative : Bool) (cs : List Char) : Numeral :=
  let (n, rest) := digits base 0 cs
  let value : Int := if negative then -(n : Int) else n
  { value := max least (min greatest value)
    fits := least ≤ value && value ≤ greatest
    hasDigits := cs.head?.any fun c => (Text.digit? base c).isSome
    rest }

/-- The numeral at the front of a text. It is decimal, unless it may announce its base. -/
def scan (announces : Bool) (cs : List Char) : Numeral :=
  let unsigned (negative : Bool) (cs : List Char) : Numeral :=
    if announces then
      let (base, cs) := announced cs
      ofDigits base negative cs
    else ofDigits 10 negative cs
  match cs.dropWhile isBlank with
  | '-' :: cs => unsigned true cs
  | '+' :: cs => unsigned false cs
  | cs => unsigned false cs

/-- The value of a text that is a numeral between blanks. Where a numeral may announce its base, a
blank text is zero. -/
def value? (announces : Bool) (s : String) : Option Int :=
  let n := scan announces s.toList
  let isComplete :=
    if n.hasDigits then n.rest.all isBlank else announces && s.toList.all isBlank
  if n.fits && isComplete then some n.value else none

end Numeral

end LintRoster.Shell
