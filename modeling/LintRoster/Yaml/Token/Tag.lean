import LintRoster.Text.Digit
import LintRoster.Text.Utf8
import LintRoster.Yaml.Token.Cursor

/-!
# Tags, anchors and directives

A tag is written verbatim between angle brackets, or as a handle and a suffix. Its characters may
be percent escapes of the bytes of UTF-8. A directive stands at the start of a line and is about
the version of YAML or about the meaning of a tag handle.
-/

namespace LintRoster.Yaml.Tag

/-- The characters of a tag that need no escape. Verbatim tags and the texts that handles stand for
may also hold the indicators of flow sequences. -/
def isTagChar (verbatim : Bool) (c : Char) : Bool :=
  isNameChar c || ";/?:@&=+$.!~*'()".toList.contains c || (verbatim && ",[]".toList.contains c)

/-- The number of bytes in the UTF-8 form of a character that begins with byte `b`. -/
def leadWidth? (b : Nat) : Option Nat :=
  if b < 0x80 then some 1
  else if b < 0xC0 then none
  else if b < 0xE0 then some 2
  else if b < 0xF0 then some 3
  else if b < 0xF8 then some 4
  else none

/-- The byte that a percent escape at the start of a list stands for. -/
def percentByte? : List Char → Option Nat
  | '%' :: a :: b :: _ =>
    match Text.digit? 16 a, Text.digit? 16 b with
    | some x, some y => some (x * 16 + y)
    | _, _ => none
  | _ => none

/-- Reads `more` percent escapes of continuation bytes. -/
def readContinuation : Nat → Cursor → List UInt8 → Except Fault (Cursor × List UInt8)
  | 0, cur, out => .ok (cur, out)
  | more + 1, cur, out =>
    match percentByte? cur.rest with
    | none => .error .malformedTag
    | some b =>
      if 0x80 ≤ b && b < 0xC0 then readContinuation more (cur.skip 3) (UInt8.ofNat b :: out)
      else .error .malformedTag

/-- Reads the percent escapes of the bytes of one character. -/
def readEscape (cur : Cursor) (out : List UInt8) : Except Fault (Cursor × List UInt8) :=
  match percentByte? cur.rest with
  | none => .error .malformedTag
  | some b =>
    match leadWidth? b with
    | none => .error .malformedTag
    | some width => readContinuation (width - 1) (cur.skip 3) (UInt8.ofNat b :: out)

/-- Reads the bytes of a tag, which come last to first. -/
def readBytesFrom (verbatim : Bool) :
    Nat → Cursor → List UInt8 → Except Fault (Cursor × List UInt8)
  | 0, cur, out => .ok (cur, out)
  | fuel + 1, cur, out =>
    match cur.head with
    | none => .ok (cur, out)
    | some c =>
      if c == '%' then
        match readEscape cur out with
        | .error e => .error e
        | .ok (cur', out') => readBytesFrom verbatim fuel cur' out'
      else if isTagChar verbatim c then
        readBytesFrom verbatim fuel (cur.skip 1) (UInt8.ofNat c.toNat :: out)
      else .ok (cur, out)

/-- The text of a tag. It ends at the first zero byte. Bytes that are not UTF-8 are replaced, and the
text is marked by a null character, which no other tag has. -/
def textOfBytes (bytes : List UInt8) : String :=
  let bytes := bytes.takeWhile (· != 0)
  (Utf8.decode? bytes).getD ((Utf8.decodeLossy bytes).push '\x00')

/-- Reads the characters of a tag after the text `start`. -/
def readText (verbatim : Bool) (start : String) (cur : Cursor) :
    Except Fault (Cursor × String) :=
  match readBytesFrom verbatim cur.rest.length cur (Utf8.encode start).reverse with
  | .error e => .error e
  | .ok (cur', out) => .ok (cur', textOfBytes out.reverse)

/-- Reads a text that must not be empty. -/
def readSome (verbatim : Bool) (cur : Cursor) : Except Fault (Cursor × String) :=
  if cur.head.any fun c => isTagChar verbatim c || c == '%' then readText verbatim "" cur
  else .error .malformedTag

/-- The exclamation mark, the name characters after it, and the exclamation mark that may end a
handle. -/
def handleChars (cur : Cursor) : List Char :=
  let name := (cur.rest.drop 1).takeWhile isNameChar
  let end? := if cur.peek (name.length + 1) == some '!' then ['!'] else []
  '!' :: (name ++ end?)

/-- Reads a verbatim tag from its exclamation mark on. -/
def readVerbatim (cur : Cursor) : Except Fault (Cursor × Token) := do
  let (cur, suffix) ← readSome true (cur.skip 2)
  if cur.head == some '>' then return (cur.skip 1, .tag "" suffix) else .error .malformedTag

/-- Reads a tag that is no verbatim tag. The tag that is a lone exclamation mark has no handle. -/
def readShort (cur : Cursor) : Except Fault (Cursor × Token) := do
  let handle := handleChars cur
  if handle.length > 1 && handle.getLast? == some '!' then
    let (cur, suffix) ← readSome false (cur.skip handle.length)
    return (cur, .tag (String.ofList handle) suffix)
  else
    let (cur, suffix) ← readText false (String.ofList (handle.drop 1)) (cur.skip handle.length)
    return (cur, if suffix.isEmpty then .tag "" "!" else .tag "!" suffix)

/-- Reads a tag from its exclamation mark on. White space must follow, or a comma inside a flow
collection. -/
def read (flow : Bool) (cur : Cursor) : Except Fault (Cursor × Token) := do
  let (cur, token) ← if cur.peek 1 == some '<' then readVerbatim cur else readShort cur
  if isGapOrEnd cur.head || (flow && cur.head == some ',') then return (cur, token)
  else .error .malformedTag

/-- The characters that may follow the name of an anchor or an alias, white space apart. -/
def endsAnchor (c : Char) : Bool :=
  ['?', ':', ',', ']', '}', '%', '@', '\x60'].contains c

/-- Reads the name of an anchor or an alias from its indicator on. -/
def readAnchor (cur : Cursor) : Except Fault (Cursor × String) :=
  let name := (cur.rest.drop 1).takeWhile isNameChar
  let cur := cur.skip (name.length + 1)
  if !name.isEmpty && (isGapOrEnd cur.head || cur.head.any endsAnchor) then
    .ok (cur, String.ofList name)
  else .error .malformedAnchor

/-- Reads a number of a version, which has at most nine digits. -/
def readVersionNumber (cur : Cursor) : Except Fault (Cursor × Nat) :=
  let digits := cur.rest.takeWhile Char.isDigit
  if digits.isEmpty || digits.length > 9 then .error .malformedDirective
  else .ok (cur.skip digits.length, digits.foldl (fun n c => n * 10 + (c.toNat - 0x30)) 0)

/-- Reads the version that a directive asks for. -/
def readVersion (cur : Cursor) : Except Fault (Cursor × Token) := do
  let (cur, major) ← readVersionNumber (cur.skipWhile isGap)
  if cur.head == some '.' then
    let (cur, minor) ← readVersionNumber (cur.skip 1)
    return (cur, .versionDirective major minor)
  else .error .malformedDirective

/-- Reads a tag handle and the text that it stands for. -/
def readHandleMeaning (cur : Cursor) : Except Fault (Cursor × Token) := do
  let cur := cur.skipWhile isGap
  if cur.head != some '!' then .error .malformedDirective
  else
    let handle := handleChars cur
    if handle.length > 1 && handle.getLast? != some '!' then .error .malformedDirective
    else
      let cur := cur.skip handle.length
      if cur.head.any isGap then
        let (cur, lead) ← readSome true (cur.skipWhile isGap)
        if isGapOrEnd cur.head then return (cur, .tagDirective (String.ofList handle) lead)
        else .error .malformedDirective
      else .error .malformedDirective

/-- Reads a directive from its percent sign to the end of its line. -/
def readDirective (cur : Cursor) : Except Fault (Cursor × Token) := do
  let name := (cur.rest.drop 1).takeWhile isNameChar
  let cur := cur.skip (name.length + 1)
  if !isGapOrEnd cur.head then .error .malformedDirective
  else
    let (cur, token) ←
      if name == "YAML".toList then readVersion cur
      else if name == "TAG".toList then readHandleMeaning cur
      else .error .malformedDirective
    let cur := cur.skipWhile isGap
    let cur := if cur.head == some '#' then cur.skipLineRest else cur
    if isBreakOrEnd cur.head then return (cur.skipBreak, token) else .error .malformedDirective

end LintRoster.Yaml.Tag
