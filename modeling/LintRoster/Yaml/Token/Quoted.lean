import LintRoster.Text.Digit
import LintRoster.Yaml.Token.Cursor

/-!
# Quoted scalars

A scalar in single quotes knows one escape, the doubled quote. A scalar in double quotes knows
escapes for single characters and code points, and may hide a line break. Line breaks in either are
folded.
-/

namespace LintRoster.Yaml.Quoted

/-- What a character after a backslash stands for. -/
inductive Escape where
  | char (c : Char)
  | code (digits : Nat)
deriving Repr

/-- The escapes of a scalar in double quotes. -/
def escape? : Char → Option Escape
  | '0' => some (.char '\x00')
  | 'a' => some (.char '\x07')
  | 'b' => some (.char '\x08')
  | 't' | '\t' => some (.char '\t')
  | 'n' => some (.char '\n')
  | 'v' => some (.char '\x0b')
  | 'f' => some (.char '\x0c')
  | 'r' => some (.char '\r')
  | 'e' => some (.char '\x1b')
  | ' ' => some (.char ' ')
  | '"' => some (.char '"')
  | '/' => some (.char '/')
  | '\\' => some (.char '\\')
  | 'N' => some (.char '\u0085')
  | '_' => some (.char '\u00a0')
  | 'L' => some (.char '\u2028')
  | 'P' => some (.char '\u2029')
  | 'x' => some (.code 2)
  | 'u' => some (.code 4)
  | 'U' => some (.code 8)
  | _ => none

/-- Reads a scalar after its opening quote. The characters so far come last to first. -/
def readFrom (single : Bool) : Nat → Cursor → List Char → Except Fault (Cursor × List Char)
  | 0, _, _ => .error .unfinishedQuote
  | fuel + 1, cur, out =>
    if cur.atDocumentEdge then .error .unfinishedQuote
    else
      match cur.rest with
      | [] => .error .unfinishedQuote
      | c :: cs =>
        if isGap c || isBreak c then
          match Spacing.read 0 cur .none with
          | .error e => .error e
          | .ok (cur', w) => readFrom single fuel cur' (w.text.reverse ++ out)
        else if single then
          if c == '\'' then
            if cs.head? == some '\'' then readFrom single fuel (cur.skip 2) ('\'' :: out)
            else .ok (cur.skip 1, out)
          else readFrom single fuel (cur.skip 1) (c :: out)
        else if c == '"' then .ok (cur.skip 1, out)
        else if c == '\\' then
          match cs with
          | [] => .error .malformedEscape
          | e :: es =>
            if isBreak e then
              match Spacing.read 0 (cur.skip 1).skipBreak .joined with
              | .error e => .error e
              | .ok (cur', w) => readFrom single fuel cur' (w.text.reverse ++ out)
            else
              match escape? e with
              | none => .error .malformedEscape
              | some (.char d) => readFrom single fuel (cur.skip 2) (d :: out)
              | some (.code digits) =>
                match Text.codeChar? digits es with
                | none => .error .malformedEscape
                | some d => readFrom single fuel (cur.skip (2 + digits)) (d :: out)
        else readFrom single fuel (cur.skip 1) (c :: out)

/-- Reads a quoted scalar from its opening quote on. -/
def read (cur : Cursor) : Except Fault (Cursor × String) :=
  match readFrom (cur.head == some '\'') cur.rest.length (cur.skip 1) [] with
  | .error e => .error e
  | .ok (cur', out) => .ok (cur', String.ofList out.reverse)

end LintRoster.Yaml.Quoted
