import LintRoster.Yaml.Token.Cursor

/-!
# Plain scalars

A plain scalar runs up to a comment, a colon before white space, the edge of a document, a line
that is not indented far enough, or, inside a flow collection, an indicator of such a collection.
Line breaks in it are folded, white space after it is dropped.
-/

namespace LintRoster.Yaml.Plain

/-- The indicators that end a plain scalar inside a flow collection. -/
def isFlowIndicator (c : Char) : Bool :=
  c == ',' || c == '[' || c == ']' || c == '{' || c == '}'

/-- How a plain scalar was left: the place behind it, its characters last to first, and whether
line breaks came before that place. -/
structure Reading where
  cursor : Cursor
  out : List Char
  broken : Bool

/-- Reads a plain scalar. `w` is the white space since the last character that was kept, and
`indent` the least column of a further line. -/
def readFrom (flow : Bool) (indent : Int) :
    Nat → Cursor → List Char → Spacing → Except Fault Reading
  | 0, cur, out, w => .ok ⟨cur, out, w.broken⟩
  | fuel + 1, cur, out, w =>
    match cur.rest with
    | [] => .ok ⟨cur, out, w.broken⟩
    | c :: cs =>
      if isGap c || isBreak c then
        match Spacing.read indent cur w with
        | .error e => .error e
        | .ok (cur', w') =>
          if !flow && (cur'.column : Int) < indent then .ok ⟨cur', out, w'.broken⟩
          else if cur'.atDocumentEdge || cur'.head == some '#' then .ok ⟨cur', out, w'.broken⟩
          else readFrom flow indent fuel cur' out w'
      else if flow && c == ':' && cs.head?.any fun d => isFlowIndicator d || d == '?' then
        .error .strayColon
      else if (c == ':' && isGapOrEnd cs.head?) || (flow && isFlowIndicator c) then
        .ok ⟨cur, out, w.broken⟩
      else readFrom flow indent fuel (cur.skip 1) (c :: (w.text.reverse ++ out)) .none

/-- Reads a plain scalar that must be indented to the column `indent` on its further lines. The
last component tells whether line breaks come before the place behind it. -/
def read (flow : Bool) (indent : Int) (cur : Cursor) : Except Fault (Cursor × String × Bool) :=
  match readFrom flow indent (2 * cur.rest.length + 1) cur [] .none with
  | .error e => .error e
  | .ok r => .ok (r.cursor, String.ofList r.out.reverse, r.broken)

end LintRoster.Yaml.Plain
