import LintRoster.Json
import LintRoster.Text.Digit

/-!
# Reading JSON

`Json.ofText?` reads a text that holds exactly one value between blanks. Values may be nested to any
depth. The reader goes over the characters once; its fuel is a bound on the number of its calls,
computed from the length of the text.
-/

namespace LintRoster.Json

/-- The characters that may stand between tokens. -/
def isSpace (c : Char) : Bool :=
  c == ' ' || c == '\n' || c == '\t' || c == '\r'

/-- The characters after leading blanks. -/
def skipSpace (cs : List Char) : List Char :=
  cs.dropWhile isSpace

/-- A result with the characters after it. -/
abbrev Step (α : Type) := Except Fault (α × List Char)

/-- The value of four hexadecimal digits. -/
def unit? (a b c d : Char) : Option Nat :=
  Text.digitsValue? 16 0 [a, b, c, d]

/-- The character of an escape of one letter. -/
def escape? : Char → Option Char
  | '"' => some '"'
  | '\\' => some '\\'
  | '/' => some '/'
  | 'b' => some '\x08'
  | 'f' => some '\x0c'
  | 'n' => some '\n'
  | 'r' => some '\r'
  | 't' => some '\t'
  | _ => none

/-- A piece of a string: a character, or a unit of sixteen bits that an escape gives. -/
inductive Piece where
  | char (c : Char)
  | unit (n : Nat)

/-- Reads the pieces of a string up to its closing quote, after those in `before`, which are last
first. -/
def pieces (before : List Piece) : List Char → Step (List Piece)
  | [] => .error .malformed
  | '"' :: rest => .ok (before.reverse, rest)
  | '\\' :: 'u' :: a :: b :: c :: d :: rest =>
    match unit? a b c d with
    | none => .error .malformed
    | some n => pieces (.unit n :: before) rest
  | '\\' :: c :: rest =>
    match escape? c with
    | none => .error .malformed
    | some c => pieces (.char c :: before) rest
  | c :: rest => if c.toNat < 0x20 then .error .malformed else pieces (.char c :: before) rest

/-- Whether a unit begins a pair. -/
def isHigh (n : Nat) : Bool := 0xD800 ≤ n && n < 0xDC00

/-- Whether a unit ends a pair. -/
def isLow (n : Nat) : Bool := 0xDC00 ≤ n && n < 0xE000

/-- The characters that pieces spell, after those in `before`, which are last first. A unit of a
pair that stands alone spells none. -/
def spell? (before : List Char) : List Piece → Option (List Char)
  | [] => some before.reverse
  | .char c :: rest => spell? (c :: before) rest
  | .unit n :: .unit m :: rest =>
    if isHigh n && isLow m then
      spell? (Char.ofNat (0x10000 + (n - 0xD800) * 0x400 + (m - 0xDC00)) :: before) rest
    else if isHigh n || isLow n then none
    else spell? (Char.ofNat n :: before) (.unit m :: rest)
  | .unit n :: rest => if isHigh n || isLow n then none else spell? (Char.ofNat n :: before) rest

/-- Reads a string after its opening quote. -/
def stringBody (cs : List Char) : Step (Option String) :=
  match pieces [] cs with
  | .error e => .error e
  | .ok (ps, rest) => .ok ((spell? [] ps).map String.ofList, rest)

/-- The digits at the front. There is at least one. -/
def digits? (cs : List Char) : Option (List Char × List Char) :=
  let digits := cs.takeWhile Char.isDigit
  if digits.isEmpty then none else some (digits, cs.dropWhile Char.isDigit)

/-- The whole part of a number: a zero, or digits that do not begin with one. -/
def whole? : List Char → Option (List Char × List Char)
  | '0' :: rest =>
    match rest with
    | [] => some (['0'], [])
    | c :: cs => if c.isDigit then none else some (['0'], c :: cs)
  | cs => digits? cs

/-- The part of a number behind its point, which may be missing. -/
def fraction? : List Char → Option (List Char × List Char)
  | '.' :: rest => (digits? rest).map fun (ds, rest) => ('.' :: ds, rest)
  | cs => some ([], cs)

/-- The sign of an exponent, which may be missing. -/
def exponentSign : List Char → List Char × List Char
  | '+' :: rest => (['+'], rest)
  | '-' :: rest => (['-'], rest)
  | cs => ([], cs)

/-- The exponent of a number, which may be missing. -/
def exponent? : List Char → Option (List Char × List Char)
  | [] => some ([], [])
  | c :: rest =>
    if c == 'e' || c == 'E' then
      let (sign, rest) := exponentSign rest
      (digits? rest).map fun (ds, rest) => (c :: sign ++ ds, rest)
    else some ([], c :: rest)

/-- Reads a number, without a sign in front. -/
def unsignedNumber? (cs : List Char) : Option (List Char × List Char) := do
  let (whole, cs) ← whole? cs
  let (fraction, cs) ← fraction? cs
  let (exponent, cs) ← exponent? cs
  return (whole ++ fraction ++ exponent, cs)

/-- Reads a number. -/
def numberLiteral : List Char → Step Json
  | '-' :: rest =>
    match unsignedNumber? rest with
    | none => .error .malformed
    | some (literal, rest) => .ok (.number (String.ofList ('-' :: literal)), rest)
  | cs =>
    match unsignedNumber? cs with
    | none => .error .malformed
    | some (literal, rest) => .ok (.number (String.ofList literal), rest)

mutual

/-- Reads a value without leading blanks. -/
def value : Nat → List Char → Step Json
  | 0, _ => .error .malformed
  | fuel + 1, cs =>
    match cs with
    | 'n' :: 'u' :: 'l' :: 'l' :: rest => .ok (.null, rest)
    | 't' :: 'r' :: 'u' :: 'e' :: rest => .ok (.bool true, rest)
    | 'f' :: 'a' :: 'l' :: 's' :: 'e' :: rest => .ok (.bool false, rest)
    | '"' :: rest =>
      match stringBody rest with
      | .error e => .error e
      | .ok (text, rest) => .ok (.string text, rest)
    | '[' :: rest =>
      match skipSpace rest with
      | ']' :: rest => .ok (.array [], rest)
      | rest =>
        match itemsAfter fuel rest with
        | .error e => .error e
        | .ok (items, rest) => .ok (.array items, rest)
    | '{' :: rest =>
      match skipSpace rest with
      | '}' :: rest => .ok (.object [], rest)
      | rest =>
        match membersAfter fuel rest with
        | .error e => .error e
        | .ok (members, rest) => .ok (.object members, rest)
    | cs => numberLiteral cs

/-- Reads the items of an array, at least one, and its end. -/
def itemsAfter : Nat → List Char → Step (List Json)
  | 0, _ => .error .malformed
  | fuel + 1, cs =>
    match value fuel (skipSpace cs) with
    | .error e => .error e
    | .ok (item, rest) =>
      match skipSpace rest with
      | ']' :: rest => .ok ([item], rest)
      | ',' :: rest =>
        match itemsAfter fuel rest with
        | .error e => .error e
        | .ok (items, rest) => .ok (item :: items, rest)
      | _ => .error .malformed

/-- Reads the members of an object, at least one, and its end. -/
def membersAfter : Nat → List Char → Step (List (Option String × Json))
  | 0, _ => .error .malformed
  | fuel + 1, cs =>
    match skipSpace cs with
    | '"' :: rest =>
      match stringBody rest with
      | .error e => .error e
      | .ok (name, rest) =>
        match skipSpace rest with
        | ':' :: rest =>
          match value fuel (skipSpace rest) with
          | .error e => .error e
          | .ok (v, rest) =>
            match skipSpace rest with
            | '}' :: rest => .ok ([(name, v)], rest)
            | ',' :: rest =>
              match membersAfter fuel rest with
              | .error e => .error e
              | .ok (members, rest) => .ok ((name, v) :: members, rest)
            | _ => .error .malformed
        | _ => .error .malformed
    | _ => .error .malformed

end

/-- Reads a text that holds exactly one value between blanks. -/
def ofText? (s : String) : Except Fault Json :=
  let cs := s.toList
  match value (2 * cs.length + 2) (skipSpace cs) with
  | .error e => .error e
  | .ok (v, rest) => if (skipSpace rest).isEmpty then .ok v else .error .textAfterValue

end LintRoster.Json
