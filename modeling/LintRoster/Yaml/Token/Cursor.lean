import LintRoster.Yaml.Token

/-!
# Places in a YAML text

A cursor is what remains of a text together with the count of characters, the line and the column
before it. This module also holds the character classes of YAML and the folding of line breaks.
-/

namespace LintRoster.Yaml

/-- A line break. -/
def isBreak (c : Char) : Bool :=
  c == '\n' || c == '\r' || c == '\u0085' || c == '\u2028' || c == '\u2029'

/-- A space or a tab. -/
def isGap (c : Char) : Bool :=
  c == ' ' || c == '\t'

/-- A gap, a line break, or the end of the text. -/
def isGapOrEnd : Option Char → Bool
  | none => true
  | some c => isGap c || isBreak c

/-- A line break or the end of the text. -/
def isBreakOrEnd : Option Char → Bool
  | none => true
  | some c => isBreak c

/-- A character of names: an ASCII letter or digit, an underscore or a hyphen. -/
def isNameChar (c : Char) : Bool :=
  c.isAlphanum || c == '_' || c == '-'

/-- The characters that a YAML text may hold. -/
def isAllowed (c : Char) : Bool :=
  let n := c.toNat
  n == 0x09 || n == 0x0A || n == 0x0D || (0x20 ≤ n && n ≤ 0x7E) || n == 0x85 ||
    (0xA0 ≤ n && n ≤ 0xD7FF) || (0xE000 ≤ n && n ≤ 0xFFFD) || (0x10000 ≤ n && n ≤ 0x10FFFF)

/-- What remains of a text, and where that is. -/
structure Cursor where
  rest : List Char
  index : Nat
  line : Nat
  column : Nat
deriving Repr

namespace Cursor

/-- The start of a text. -/
def start (cs : List Char) : Cursor :=
  ⟨cs, 0, 0, 0⟩

/-- The character `n` places ahead. -/
def peek (cur : Cursor) (n : Nat) : Option Char :=
  cur.rest[n]?

/-- The next character. -/
def head (cur : Cursor) : Option Char :=
  cur.rest.head?

/-- Passes `n` characters of the same line. -/
def skip (cur : Cursor) (n : Nat) : Cursor :=
  { cur with
    rest := cur.rest.drop n
    index := cur.index + n
    column := cur.column + n }

/-- Passes the characters of the same line that have the property. -/
def skipWhile (cur : Cursor) (p : Char → Bool) : Cursor :=
  cur.skip (cur.rest.takeWhile p).length

/-- Passes everything up to the next line break. -/
def skipLineRest (cur : Cursor) : Cursor :=
  cur.skipWhile fun c => !isBreak c

/-- The text that a line break stands for. -/
def breakText : List Char → List Char
  | '\u2028' :: _ => ['\u2028']
  | '\u2029' :: _ => ['\u2029']
  | c :: _ => if isBreak c then ['\n'] else []
  | [] => []

/-- How many characters a line break at the start of the list takes. -/
def breakLength : List Char → Nat
  | '\r' :: '\n' :: _ => 2
  | c :: _ => if isBreak c then 1 else 0
  | [] => 0

/-- Passes a line break, if one comes next. -/
def skipBreak (cur : Cursor) : Cursor :=
  match breakLength cur.rest with
  | 0 => cur
  | n =>
    { rest := cur.rest.drop n
      index := cur.index + n
      line := cur.line + 1
      column := 0 }

/-- Whether three equal characters that mark the edge of a document stand at the start of a line,
followed by a gap or the end of the line. -/
def atMarker (cur : Cursor) (c : Char) : Bool :=
  cur.column == 0 && [c, c, c].isPrefixOf cur.rest && isGapOrEnd (cur.peek 3)

/-- Whether a mark of the start or the end of a document comes next. -/
def atDocumentEdge (cur : Cursor) : Bool :=
  cur.atMarker '-' || cur.atMarker '.'

end Cursor

/-- White space between two parts of a scalar: the gaps on the line, or the line breaks from the
first on, when there are any. -/
structure Spacing where
  gaps : List Char
  broken : Bool
  firstBreak : List Char
  moreBreaks : List Char
deriving Repr

namespace Spacing

/-- No white space. -/
def none : Spacing :=
  ⟨[], false, [], []⟩

/-- The white space after a line break that an escape has removed. -/
def joined : Spacing :=
  ⟨[], true, [], []⟩

/-- The text that white space inside a scalar stands for. A single line break is a space, and of
several the first is dropped; the separators for lines and paragraphs are kept. -/
def text (w : Spacing) : List Char :=
  if !w.broken then w.gaps
  else if w.firstBreak == ['\n'] then if w.moreBreaks.isEmpty then [' '] else w.moreBreaks
  else w.firstBreak ++ w.moreBreaks

/-- The white space with a line break at its end. -/
def addBreak (w : Spacing) (b : List Char) : Spacing :=
  if w.broken then { w with moreBreaks := w.moreBreaks ++ b }
  else { w with gaps := [], broken := true, firstBreak := b }

/-- The white space with a gap at its end. A gap at the start of a line means nothing. -/
def addGap (w : Spacing) (c : Char) : Spacing :=
  if w.broken then w else { w with gaps := w.gaps ++ [c] }

/-- Reads white space inside a scalar. A tab before the column `indent` of a later line is
refused. -/
def readFrom (indent : Int) : Nat → Cursor → Spacing → Except Fault (Cursor × Spacing)
  | 0, cur, w => .ok (cur, w)
  | fuel + 1, cur, w =>
    match cur.head with
    | Option.none => .ok (cur, w)
    | some c =>
      if isGap c then
        if w.broken && (cur.column : Int) < indent && c == '\t' then .error .tabInIndentation
        else readFrom indent fuel (cur.skip 1) (w.addGap c)
      else if isBreak c then
        readFrom indent fuel cur.skipBreak (w.addBreak (Cursor.breakText cur.rest))
      else .ok (cur, w)

/-- Reads all white space that comes next inside a scalar. -/
def read (indent : Int) (cur : Cursor) (w : Spacing) : Except Fault (Cursor × Spacing) :=
  readFrom indent (cur.rest.takeWhile fun c => isGap c || isBreak c).length cur w

end Spacing

end LintRoster.Yaml
