import LintRoster.Text.Digit
import LintRoster.Toml.Line

/-!
# TOML strings

A string stands between quotes. Between double quotes a backslash begins an escape, between single
quotes every character stands for itself. A string between three quotes may go over several lines: a
line break right after its opening is dropped, and up to two quotes right before its closing belong
to it.
-/

namespace LintRoster.Toml.Quoted

/-- The character of an escape with the given count of hexadecimal digits. -/
def codePoint (count : Nat) (cs : List Char) : Step Char :=
  match Text.codeChar? count cs with
  | some c => .ok (c, cs.drop count)
  | none => .error .malformedEscape

/-- The character of an escape, after its backslash. -/
def escape : List Char → Step Char
  | 'b' :: rest => .ok ('\x08', rest)
  | 't' :: rest => .ok ('\t', rest)
  | 'n' :: rest => .ok ('\n', rest)
  | 'f' :: rest => .ok ('\x0c', rest)
  | 'r' :: rest => .ok ('\r', rest)
  | '"' :: rest => .ok ('"', rest)
  | '\\' :: rest => .ok ('\\', rest)
  | 'u' :: rest => codePoint 4 rest
  | 'U' :: rest => codePoint 8 rest
  | _ => .error .malformedEscape

/-- Reads a string between double quotes after its opening. The characters before are last first. -/
def basic (before : List Char) : Nat → List Char → Step String
  | 0, _ => .error .malformedString
  | fuel + 1, cs =>
    match cs with
    | [] => .error .malformedString
    | '"' :: rest => .ok (String.ofList before.reverse, rest)
    | '\\' :: rest =>
      match escape rest with
      | .error e => .error e
      | .ok (c, rest) => basic (c :: before) fuel rest
    | c :: rest => if isTextChar c then basic (c :: before) fuel rest else .error .malformedString

/-- Reads a string between single quotes after its opening. -/
def literal (cs : List Char) : Step String :=
  let text := cs.takeWhile fun c => c != '\'' && isTextChar c
  match cs.drop text.length with
  | '\'' :: rest => .ok (String.ofList text, rest)
  | _ => .error .malformedString

/-- The characters after a line break, if there is one. -/
def skipLineBreak (cs : List Char) : List Char :=
  (lineBreak? cs).getD cs

/-- The end of a string between three quotes: the quotes that belong to it, and the characters after
it. The characters begin with three quotes. -/
def closing (quote : Char) (cs : List Char) : List Char × List Char :=
  let quotes := min 5 (cs.takeWhile (· == quote)).length
  (List.replicate (quotes - 3) quote, cs.drop quotes)

/-- The characters after blanks and line breaks in any number. -/
def skipBlankLines : Nat → List Char → List Char
  | 0, cs => cs
  | fuel + 1, cs =>
    match lineBreak? (skipBlanks cs) with
    | some rest => skipBlankLines fuel rest
    | none => skipBlanks cs

/-- The characters after a line break that a backslash removes, with all blanks and line breaks that
follow, if the characters after the backslash are blanks and a line break. -/
def joinedLine? (cs : List Char) : Option (List Char) :=
  (lineBreak? (skipBlanks cs)).map fun rest => skipBlankLines (rest.length + 1) rest

/-- Reads a string between three double quotes after its opening. -/
def basicLines (before : List Char) : Nat → List Char → Step String
  | 0, _ => .error .malformedString
  | fuel + 1, cs =>
    match cs with
    | [] => .error .malformedString
    | '"' :: '"' :: '"' :: rest =>
      let (quotes, rest) := closing '"' ('"' :: '"' :: '"' :: rest)
      .ok (String.ofList (quotes ++ before).reverse, rest)
    | '\\' :: rest =>
      match joinedLine? rest with
      | some rest => basicLines before fuel rest
      | none =>
        match escape rest with
        | .error e => .error e
        | .ok (c, rest) => basicLines (c :: before) fuel rest
    | c :: rest =>
      match lineBreak? (c :: rest) with
      | some rest => basicLines ('\n' :: before) fuel rest
      | none =>
        if isTextChar c then basicLines (c :: before) fuel rest else .error .malformedString

/-- Reads a string between three single quotes after its opening. -/
def literalLines (before : List Char) : Nat → List Char → Step String
  | 0, _ => .error .malformedString
  | fuel + 1, cs =>
    match cs with
    | [] => .error .malformedString
    | '\'' :: '\'' :: '\'' :: rest =>
      let (quotes, rest) := closing '\'' ('\'' :: '\'' :: '\'' :: rest)
      .ok (String.ofList (quotes ++ before).reverse, rest)
    | c :: rest =>
      match lineBreak? (c :: rest) with
      | some rest => literalLines ('\n' :: before) fuel rest
      | none =>
        if isTextChar c then literalLines (c :: before) fuel rest else .error .malformedString

/-- Reads a string on one line, which is all that a key may be. -/
def onLine? : List Char → Option (Step String)
  | '"' :: rest => some (basic [] (rest.length + 1) rest)
  | '\'' :: rest => some (literal rest)
  | _ => none

/-- Reads a string of any form. -/
def any? : List Char → Option (Step String)
  | '"' :: '"' :: '"' :: rest => some (basicLines [] (rest.length + 1) (skipLineBreak rest))
  | '\'' :: '\'' :: '\'' :: rest => some (literalLines [] (rest.length + 1) (skipLineBreak rest))
  | cs => onLine? cs

end LintRoster.Toml.Quoted
