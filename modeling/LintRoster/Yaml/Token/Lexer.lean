import LintRoster.Yaml.Token.Block
import LintRoster.Yaml.Token.Plain
import LintRoster.Yaml.Token.Quoted
import LintRoster.Yaml.Token.Tag

/-!
# The tokens of a YAML text

The lexer keeps the indentation of the open blocks and, for each open flow collection, the place of
a token that may turn out to be a key. A colon then puts a `key` token, and the start of a block
mapping if one begins, before that token. A key that needs no question mark has to be on one line
and within `keyLimit` characters of its colon.
-/

namespace LintRoster.Yaml

/-- The greatest distance between the start of a key and its colon. -/
def keyLimit : Nat := 1024

/-- The place of a token that may be a key. It is required to be one if a block mapping has no
other reading of it. -/
structure PossibleKey where
  required : Bool
  number : Nat
  index : Nat
  line : Nat
  column : Nat
deriving Repr

/-- The lexer between two tokens. Tokens come last to first, possible keys innermost first; there is
one place for a possible key per open flow collection and one for the blocks. -/
structure Lexer where
  cursor : Cursor
  emitted : List Token
  count : Nat
  flowLevel : Nat
  indent : Int
  outerIndents : List Int
  keyAllowed : Bool
  keys : List (Option PossibleKey)

namespace Lexer

/-- The lexer at the start of a text. -/
def start (cs : List Char) : Lexer where
  cursor := Cursor.start cs
  emitted := []
  count := 0
  flowLevel := 0
  indent := -1
  outerIndents := []
  keyAllowed := true
  keys := [none]

/-- Whether the lexer is inside a flow collection. -/
def inFlow (lx : Lexer) : Bool :=
  lx.flowLevel > 0

/-- Adds a token at the end. -/
def emit (lx : Lexer) (t : Token) : Lexer :=
  { lx with emitted := t :: lx.emitted, count := lx.count + 1 }

/-- Adds a token so that it becomes the one with the given number. -/
def insert (lx : Lexer) (number : Nat) (t : Token) : Lexer :=
  let later := lx.count - number
  { lx with
    emitted := lx.emitted.take later ++ t :: lx.emitted.drop later
    count := lx.count + 1 }

/-- Ends the blocks that are indented deeper than `column`. -/
def unroll (column : Int) : List Int → Lexer → Lexer
  | [], lx => lx
  | outer :: outers, lx =>
    if lx.indent > column then
      unroll column outers { lx.emit .blockEnd with indent := outer, outerIndents := outers }
    else lx

/-- Ends the blocks that are indented deeper than `column`, outside of flow collections. -/
def endBlocks (lx : Lexer) (column : Int) : Lexer :=
  if lx.inFlow then lx else unroll column lx.outerIndents lx

/-- Begins a block at a column that is deeper than the open blocks, outside of flow collections. The
token becomes the one with the given number, or the last. -/
def beginBlock (lx : Lexer) (column : Nat) (number : Option Nat) (t : Token) : Lexer :=
  if lx.inFlow || lx.indent ≥ (column : Int) then lx
  else
    let lx :=
      match number with
      | none => lx.emit t
      | some n => lx.insert n t
    { lx with indent := column, outerIndents := lx.indent :: lx.outerIndents }

/-- Gives up the innermost possible key. -/
def dropKey (lx : Lexer) : Except Fault Lexer :=
  match lx.keys with
  | some key :: keys =>
    if key.required then .error .missingColon else .ok { lx with keys := none :: keys }
  | _ => .ok lx

/-- Notes that the next token may be a key, if one is allowed here. -/
def saveKey (lx : Lexer) : Except Fault Lexer :=
  if lx.keyAllowed then
    match lx.dropKey with
    | .error e => .error e
    | .ok lx =>
      let cur := lx.cursor
      let required := !lx.inFlow && lx.indent == (cur.column : Int)
      .ok { lx with
        keys := some ⟨required, lx.count, cur.index, cur.line, cur.column⟩ :: lx.keys.drop 1 }
  else .ok lx

/-- Whether a possible key is too far behind the cursor. -/
def isStale (cur : Cursor) (key : PossibleKey) : Bool :=
  key.line < cur.line || key.index + keyLimit < cur.index

/-- Gives up the possible keys that are too far behind. -/
def dropStaleKeys (lx : Lexer) : Except Fault Lexer :=
  if lx.keys.any fun key? => key?.any fun key => isStale lx.cursor key && key.required then
    .error .missingColon
  else
    .ok { lx with keys := lx.keys.map fun key? => key?.filter fun key => !isStale lx.cursor key }

/-- Passes white space, comments and line breaks before a token. A tab counts as white space where
no key may start. A byte order mark may stand at the start of a line, and takes a column. -/
def skipSpaceFrom : Nat → Lexer → Lexer
  | 0, lx => lx
  | fuel + 1, lx =>
    let tabs := lx.inFlow || !lx.keyAllowed
    let cur := lx.cursor
    let cur := if cur.column == 0 && cur.head == some '\uFEFF' then cur.skip 1 else cur
    let cur := cur.skipWhile fun c => c == ' ' || (tabs && c == '\t')
    let cur := if cur.head == some '#' then cur.skipLineRest else cur
    if cur.head.any isBreak then
      skipSpaceFrom fuel
        { lx with cursor := cur.skipBreak, keyAllowed := lx.keyAllowed || !lx.inFlow }
    else { lx with cursor := cur }

/-- Passes everything before the next token. -/
def skipSpace (lx : Lexer) : Lexer :=
  skipSpaceFrom (lx.cursor.rest.length + 1) lx

/-- Emits a token that takes `n` characters. -/
def emitSkip (lx : Lexer) (n : Nat) (t : Token) : Lexer :=
  { lx.emit t with cursor := lx.cursor.skip n }

/-- Reads the mark of the start or the end of a document. -/
def readMarker (lx : Lexer) (t : Token) : Except Fault Lexer := do
  let lx ← (lx.endBlocks (-1)).dropKey
  return { lx.emitSkip 3 t with keyAllowed := false }

/-- Reads a directive. -/
def readDirective (lx : Lexer) : Except Fault Lexer := do
  let lx ← (lx.endBlocks (-1)).dropKey
  let (cur, t) ← Tag.readDirective lx.cursor
  return { lx.emit t with cursor := cur, keyAllowed := false }

/-- Reads the start of a flow collection, which may be a key. -/
def openFlow (lx : Lexer) (t : Token) : Except Fault Lexer := do
  let lx ← lx.saveKey
  return { lx.emitSkip 1 t with
    keys := none :: lx.keys, flowLevel := lx.flowLevel + 1, keyAllowed := true }

/-- Reads the end of a flow collection. -/
def closeFlow (lx : Lexer) (t : Token) : Except Fault Lexer := do
  let lx ← lx.dropKey
  return { lx.emitSkip 1 t with
    keys := if lx.inFlow then lx.keys.drop 1 else lx.keys
    flowLevel := lx.flowLevel - 1
    keyAllowed := false }

/-- Reads a comma in a flow collection. -/
def readFlowEntry (lx : Lexer) : Except Fault Lexer := do
  let lx ← lx.dropKey
  return { lx.emitSkip 1 .flowEntry with keyAllowed := true }

/-- Reads the hyphen of an entry of a block sequence. -/
def readBlockEntry (lx : Lexer) : Except Fault Lexer := do
  if !lx.inFlow && !lx.keyAllowed then .error .misplacedIndicator
  else
    let lx ← (lx.beginBlock lx.cursor.column none .blockSequenceStart).dropKey
    return { lx.emitSkip 1 .blockEntry with keyAllowed := true }

/-- Reads the question mark of a key. -/
def readKey (lx : Lexer) : Except Fault Lexer := do
  if !lx.inFlow && !lx.keyAllowed then .error .misplacedIndicator
  else
    let lx ← (lx.beginBlock lx.cursor.column none .blockMappingStart).dropKey
    return { lx.emitSkip 1 .key with keyAllowed := !lx.inFlow }

/-- Reads the colon of a value. It turns the possible key, if there is one, into a key. -/
def readValue (lx : Lexer) : Except Fault Lexer :=
  match lx.keys with
  | some key :: keys =>
    let lx := (lx.insert key.number .key).beginBlock key.column (some key.number) .blockMappingStart
    .ok { lx.emitSkip 1 .value with keys := none :: keys, keyAllowed := false }
  | _ =>
    if !lx.inFlow && !lx.keyAllowed then .error .misplacedIndicator
    else
      let lx := lx.beginBlock lx.cursor.column none .blockMappingStart
      .ok { lx.emitSkip 1 .value with keyAllowed := !lx.inFlow }

/-- Reads an anchor or an alias, which may be a key or stand before one. -/
def readAnchor (lx : Lexer) (t : String → Token) : Except Fault Lexer := do
  let lx ← lx.saveKey
  let (cur, name) ← Tag.readAnchor lx.cursor
  return { lx.emit (t name) with cursor := cur, keyAllowed := false }

/-- Reads a tag, which may stand before a key. -/
def readTag (lx : Lexer) : Except Fault Lexer := do
  let lx ← lx.saveKey
  let (cur, t) ← Tag.read lx.inFlow lx.cursor
  return { lx.emit t with cursor := cur, keyAllowed := false }

/-- Reads a block scalar, after which a key may start. -/
def readBlock (lx : Lexer) : Except Fault Lexer := do
  let lx ← lx.dropKey
  let (cur, text) ← Block.read lx.indent lx.cursor
  return { lx.emit (.scalar text false) with cursor := cur, keyAllowed := true }

/-- Reads a quoted scalar, which may be a key. -/
def readQuoted (lx : Lexer) : Except Fault Lexer := do
  let lx ← lx.saveKey
  let (cur, text) ← Quoted.read lx.cursor
  return { lx.emit (.scalar text false) with cursor := cur, keyAllowed := false }

/-- Reads a plain scalar, which may be a key. A key may start after it on a new line only. -/
def readPlain (lx : Lexer) : Except Fault Lexer := do
  let lx ← lx.saveKey
  let (cur, text, broken) ← Plain.read lx.inFlow (lx.indent + 1) lx.cursor
  return { lx.emit (.scalar text true) with cursor := cur, keyAllowed := broken }

/-- The characters that start no plain scalar, or only before a character that is no gap. -/
def startsNoPlain (c : Char) : Bool :=
  ['-', '?', ':', ',', '[', ']', '{', '}', '#', '&', '*', '!', '|', '>', '\'', '"', '%', '@',
    '\x60'].contains c

/-- Whether a plain scalar may start with `c` before `next`. -/
def startsPlain (flow : Bool) (c : Char) (next : Option Char) : Bool :=
  !(isGapOrEnd (some c) || startsNoPlain c) || (c == '-' && !next.any isGap) ||
    (!flow && (c == '?' || c == ':') && !isGapOrEnd next)

/-- Reads the token that starts with the character `c`. -/
def readToken (lx : Lexer) (c : Char) : Except Fault Lexer :=
  let cur := lx.cursor
  let next := cur.peek 1
  if cur.column == 0 && c == '%' then lx.readDirective
  else if cur.atMarker '-' then lx.readMarker .documentStart
  else if cur.atMarker '.' then lx.readMarker .documentEnd
  else if c == '[' then lx.openFlow .flowSequenceStart
  else if c == '{' then lx.openFlow .flowMappingStart
  else if c == ']' then lx.closeFlow .flowSequenceEnd
  else if c == '}' then lx.closeFlow .flowMappingEnd
  else if c == ',' then lx.readFlowEntry
  else if c == '-' && isGapOrEnd next then lx.readBlockEntry
  else if c == '?' && (lx.inFlow || isGapOrEnd next) then lx.readKey
  else if c == ':' && (lx.inFlow || isGapOrEnd next) then lx.readValue
  else if c == '*' then lx.readAnchor .alias
  else if c == '&' then lx.readAnchor .anchor
  else if c == '!' then lx.readTag
  else if (c == '|' || c == '>') && !lx.inFlow then lx.readBlock
  else if c == '\'' || c == '"' then lx.readQuoted
  else if startsPlain lx.inFlow c next then lx.readPlain
  else .error .strayCharacter

/-- Ends all blocks at the end of the text. -/
def finish (lx : Lexer) : Except Fault Lexer :=
  (lx.endBlocks (-1)).dropKey

/-- Reads tokens to the end of the text. -/
def run : Nat → Lexer → Except Fault Lexer
  | 0, lx => lx.finish
  | fuel + 1, lx =>
    match lx.skipSpace.dropStaleKeys with
    | .error e => .error e
    | .ok lx =>
      let lx := lx.endBlocks lx.cursor.column
      match lx.cursor.head with
      | none => lx.finish
      | some c =>
        match lx.readToken c with
        | .error e => .error e
        | .ok lx => run fuel lx

end Lexer

/-- The tokens of a YAML text. -/
def tokens? (text : String) : Except Fault (List Token) :=
  let cs := text.toList
  if cs.all isAllowed then
    match (Lexer.start cs).run (cs.length + 1) with
    | .error e => .error e
    | .ok lx => .ok lx.emitted.reverse
  else .error .forbiddenCharacter

end LintRoster.Yaml
