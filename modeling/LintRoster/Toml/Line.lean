import LintRoster.Toml.Item

/-!
# Blanks, comments and line ends

Within a line, blanks are spaces and tabs. A line ends in a line feed, with or without a carriage
return before it, or with the text. A comment runs to the end of its line and holds no control
characters but tabs.
-/

namespace LintRoster.Toml

/-- A result with the characters after it. -/
abbrev Step (α : Type) := Except Fault (α × List Char)

/-- The blanks within a line. -/
def isBlank (c : Char) : Bool :=
  c == ' ' || c == '\t'

/-- The characters after leading blanks. -/
def skipBlanks (cs : List Char) : List Char :=
  cs.dropWhile isBlank

/-- The characters of comments, and of strings apart from quotes and escapes. -/
def isTextChar (c : Char) : Bool :=
  c == '\t' || (0x20 ≤ c.toNat && c.toNat ≠ 0x7F)

/-- The characters after a line break at the front. -/
def lineBreak? : List Char → Option (List Char)
  | '\n' :: rest => some rest
  | '\r' :: '\n' :: rest => some rest
  | _ => none

/-- The characters after a comment at the front, if there is one. -/
def skipComment : List Char → List Char
  | '#' :: rest => rest.dropWhile isTextChar
  | cs => cs

/-- The characters after the end of a line: blanks, a comment if there is one, and a line break or
the end of the text. -/
def lineEnd? (cs : List Char) : Except Fault (List Char) :=
  match skipComment (skipBlanks cs) with
  | [] => .ok []
  | cs =>
    match lineBreak? cs with
    | some rest => .ok rest
    | none => .error .textAfterStatement

/-- The characters after blanks, comments and line breaks in any number. -/
def skipLines : Nat → List Char → List Char
  | 0, cs => cs
  | fuel + 1, cs =>
    match skipComment (skipBlanks cs) with
    | [] => []
    | cs =>
      match lineBreak? cs with
      | some rest => skipLines fuel rest
      | none => cs

/-- The characters after all that may stand between the items of an array. A comment there must end
in a line break. -/
def skipBetween (cs : List Char) : List Char :=
  skipLines (cs.length + 1) cs

end LintRoster.Toml
