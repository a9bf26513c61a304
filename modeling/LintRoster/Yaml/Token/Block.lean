import LintRoster.Yaml.Token.Cursor

/-!
# Block scalars

A block scalar begins with a header: an indicator, `|` for a literal and `>` for a folded text, and
optionally how to treat the line breaks at its end and how far its lines are indented. Without the
latter the first line that is not empty decides the indentation.
-/

namespace LintRoster.Yaml.Block

/-- What becomes of the line breaks at the end of a block scalar. -/
inductive Chomping where
  | strip
  | clip
  | keep
deriving DecidableEq, Repr

/-- The chomping that an indicator asks for. -/
def chomping? : Option Char → Option Chomping
  | some '+' => some .keep
  | some '-' => some .strip
  | _ => none

/-- The digit of an indentation indicator. -/
def digit? : Option Char → Option Nat
  | some c => if c.isDigit then some (c.toNat - 0x30) else none
  | none => none

/-- What a header says, and the place behind it. -/
structure Header where
  cursor : Cursor
  chomping : Chomping
  increment : Option Nat

/-- Reads the indicators of a header, after the first one. -/
def readIndicators (cur : Cursor) : Except Fault Header :=
  match chomping? cur.head with
  | some chomping =>
    match digit? (cur.peek 1) with
    | some 0 => .error .malformedBlockHeader
    | some n => .ok ⟨cur.skip 2, chomping, some n⟩
    | none => .ok ⟨cur.skip 1, chomping, none⟩
  | none =>
    match digit? cur.head with
    | some 0 => .error .malformedBlockHeader
    | some n =>
      match chomping? (cur.peek 1) with
      | some chomping => .ok ⟨cur.skip 2, chomping, some n⟩
      | none => .ok ⟨cur.skip 1, .clip, some n⟩
    | none => .ok ⟨cur, .clip, none⟩

/-- Passes gaps and a comment to the end of the line, and the line break. -/
def readLineEnd (cur : Cursor) : Except Fault Cursor :=
  let cur := cur.skipWhile isGap
  let cur := if cur.head == some '#' then cur.skipLineRest else cur
  if isBreakOrEnd cur.head then .ok cur.skipBreak else .error .malformedBlockHeader

/-- Empty lines inside a block scalar: the place behind them, their line breaks, and the greatest
column that was reached. -/
structure Gap where
  cursor : Cursor
  breaks : List Char
  widest : Nat

/-- Reads indentation and empty lines. Without a known indentation all spaces count as
indentation. -/
def readGapFrom (indent : Option Nat) : Nat → Cursor → List Char → Nat → Except Fault Gap
  | 0, cur, breaks, widest => .ok ⟨cur, breaks, widest⟩
  | fuel + 1, cur, breaks, widest =>
    let spaces := (cur.rest.takeWhile (· == ' ')).length
    let cur :=
      match indent with
      | none => cur.skip spaces
      | some n => cur.skip (min spaces (n - cur.column))
    let widest := max widest cur.column
    if (indent.all fun n => cur.column < n) && cur.head == some '\t' then
      .error .tabInIndentation
    else if cur.head.any isBreak then
      readGapFrom indent fuel cur.skipBreak (breaks ++ Cursor.breakText cur.rest) widest
    else .ok ⟨cur, breaks, widest⟩

/-- Reads indentation and empty lines. -/
def readGap (indent : Option Nat) (cur : Cursor) : Except Fault Gap :=
  readGapFrom indent (cur.rest.length + 1) cur [] 0

/-- What stands between two lines of a block scalar. In a folded scalar a single line break between
two lines that begin with text is a space. -/
def between (literal : Bool) (lineBreak breaks : List Char) (wasGap isGapNow : Bool) : List Char :=
  if !literal && lineBreak == ['\n'] && !wasGap && !isGapNow then
    if breaks.isEmpty then [' '] else breaks
  else lineBreak ++ breaks

/-- The content of a block scalar: the place behind it, its characters last to first, the break of
its last line and the breaks of the empty lines after it. -/
structure Content where
  cursor : Cursor
  out : List Char
  lineBreak : List Char
  breaks : List Char

/-- Reads the lines of a block scalar with the given indentation. -/
def readLines (literal : Bool) (indent : Nat) :
    Nat → Cursor → List Char → List Char → List Char → Bool → Except Fault Content
  | 0, cur, out, lineBreak, breaks, _ => .ok ⟨cur, out, lineBreak, breaks⟩
  | fuel + 1, cur, out, lineBreak, breaks, wasGap =>
    if cur.column == indent && cur.head.isSome then
      let isGapNow := cur.head.any isGap
      let joint := between literal lineBreak breaks wasGap isGapNow
      let content := cur.rest.takeWhile fun c => !isBreak c
      let cur := cur.skip content.length
      match readGap (some indent) cur.skipBreak with
      | .error e => .error e
      | .ok gap =>
        readLines literal indent fuel gap.cursor (content.reverse ++ (joint.reverse ++ out))
          (Cursor.breakText cur.rest) gap.breaks isGapNow
    else .ok ⟨cur, out, lineBreak, breaks⟩

/-- The text of a block scalar after the chomping of its end. -/
def chomp (chomping : Chomping) (content : Content) : String :=
  let tail :=
    match chomping with
    | .strip => []
    | .clip => content.lineBreak
    | .keep => content.lineBreak ++ content.breaks
  String.ofList (content.out.reverse ++ tail)

/-- Reads a block scalar from its first indicator on. `parent` is the indentation of the block
that holds it. -/
def read (parent : Int) (cur : Cursor) : Except Fault (Cursor × String) := do
  let literal := cur.head == some '|'
  let header ← readIndicators (cur.skip 1)
  let cur ← readLineEnd header.cursor
  let known := header.increment.map fun n => (max parent 0).toNat + n
  let gap ← readGap known cur
  let indent :=
    match known with
    | some n => n
    | none => max gap.widest (max (parent + 1) 1).toNat
  let content ←
    readLines literal indent (gap.cursor.rest.length + 1) gap.cursor [] [] gap.breaks false
  return (content.cursor, chomp header.chomping content)

end LintRoster.Yaml.Block
