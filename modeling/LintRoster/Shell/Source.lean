import LintRoster.Shell.Statement

/-!
# The source of a script

A source holds the characters of a script that were not read yet, with the number of the present
line. Its operations read characters one by one; a backslash in front of a line end joins two lines.
The text that a redirection takes from the lines after the present one is taken out at once.
-/

namespace LintRoster.Shell

/-- Why a script cannot be read. -/
inductive Complaint where
  | unterminatedQuote
  | endInBackquotes
  | missingBrace
  | missingParentheses
  | unexpected (what : String) (expected : Option String)
  | badLoopVariable
  | badFunctionName
deriving DecidableEq, Repr

namespace Complaint

/-- The text of a complaint. -/
def message : Complaint → String
  | unterminatedQuote => "Syntax error: Unterminated quoted string"
  | endInBackquotes => "Syntax error: EOF in backquote substitution"
  | missingBrace => "Syntax error: Missing '\x7d'"
  | missingParentheses => "Syntax error: Missing '))'"
  | unexpected what none => "Syntax error: " ++ what ++ " unexpected"
  | unexpected what (some expected) =>
    "Syntax error: " ++ what ++ " unexpected (expecting " ++ expected ++ ")"
  | badLoopVariable => "Syntax error: Bad for loop variable"
  | badFunctionName => "Syntax error: Bad function name"

end Complaint

/-- A complaint with the line that it is about. -/
structure Misread where
  line : Nat
  complaint : Complaint
deriving DecidableEq, Repr

/-- A unit of a script. -/
inductive Token where
  | endOfFile
  | lineEnd
  | operator (s : String)
  /-- The beginning of a redirection, with the number of its stream if it is written. -/
  | redirect (stream : Option Nat) (operator : String)
  | keyword (s : String)
  /-- A word, and whether it holds quotes. -/
  | word (w : Word) (quoted : Bool)

namespace Token

/-- A text in double quotes. -/
def inQuotes (s : String) : String :=
  "\"" ++ s ++ "\""

/-- A token as a complaint names it. -/
def describe : Token → String
  | endOfFile => "end of file"
  | lineEnd => "newline"
  | operator s | keyword s => inQuotes s
  | redirect _ _ => "redirection"
  | word _ _ => "word"

/-- The words with a meaning of their own. -/
def keywords : List String :=
  ["!", "case", "do", "done", "elif", "else", "esac", "fi", "for", "if", "in", "then", "until",
    "while", "\x7b", "\x7d"]

/-- Whether a list of commands ends at a token. -/
def endsList : Token → Bool
  | endOfFile => true
  | operator s => s == ")" || s == ";;"
  | keyword s => ["do", "done", "elif", "else", "esac", "fi", "then", "\x7d"].contains s
  | _ => false

end Token

/-- An alias whose text is being read: its name, how many characters follow its text, and whether its
text ends in a blank. -/
structure OpenAlias where
  name : String
  after : Nat
  endsBlank : Bool

/-- A script that is being read. -/
structure Source where
  rest : List Char
  line : Nat
  /-- The token that was read last. -/
  last : Token
  /-- Whether the last token is read again. -/
  isPushed : Bool
  /-- How many lines were taken out after the present line. -/
  skipped : Nat
  aliases : List (String × String)
  openAliases : List OpenAlias

namespace Source

/-- The source of a whole script. -/
def ofText (text : String) (aliases : List (String × String)) : Source :=
  ⟨text.toList, 1, .lineEnd, false, 0, aliases, []⟩

/-- Reads from a source. -/
abbrev Read (α : Type) := StateT Source (Except Misread) α

/-- Refuses the script. -/
def complain {α : Type} (c : Complaint) : Read α := do
  throw ⟨(← get).line, c⟩

/-- The source after one character. -/
def advance (s : Source) (c : Char) (rest : List Char) : Source :=
  if c == '\n' then { s with rest, line := s.line + 1 + s.skipped, skipped := 0 }
  else { s with rest }

/-- Reads a character. -/
def next : Read (Option Char) := do
  let s ← get
  match s.rest with
  | [] => return none
  | c :: rest =>
    set (s.advance c rest)
    return some c

/-- The characters after joined lines, and how many lines were joined. -/
def dropJoints : List Char → Nat → List Char × Nat
  | '\\' :: '\n' :: cs, n => dropJoints cs (n + 1)
  | cs, n => (cs, n)

/-- Skips joined lines. -/
def joinLines : Read Unit :=
  modify fun s =>
    match s.rest with
    | '\\' :: '\n' :: _ =>
      let (rest, n) := dropJoints s.rest 0
      { s with rest, line := s.line + n }
    | _ => s

/-- Looks at the next character, behind joined lines. -/
def peek : Read (Option Char) := do
  joinLines
  return (← get).rest.head?

/-- Reads a character, behind joined lines. -/
def nextJoined : Read (Option Char) := do
  joinLines
  next

/-- Reads a certain character, if it is the next one. -/
def take? (c : Char) : Read Bool := do
  if (← peek) == some c then
    discard next
    return true
  else return false

/-- Reads characters of a kind, behind joined lines, after those in `before`, last first. -/
def takeWhileFrom (kind : Char → Bool) : Nat → List Char → Read (List Char)
  | 0, before => return before.reverse
  | fuel + 1, before => do
    match ← peek with
    | some c =>
      if kind c then
        discard next
        takeWhileFrom kind fuel (c :: before)
      else return before.reverse
    | none => return before.reverse

/-- Reads characters of a kind, behind joined lines. -/
def takeWhile (kind : Char → Bool) : Read (List Char) := do
  takeWhileFrom kind ((← get).rest.length + 1) []

/-- Skips blanks and joined lines. -/
def skipBlanks : Read Unit :=
  discard (takeWhile fun c => c == ' ' || c == '\t')

/-- Skips the rest of a line, but not its end. -/
def skipLine : Read Unit :=
  modify fun s => { s with rest := s.rest.dropWhile (· != '\n') }

/-! ## Texts of redirections -/

/-- The quotes around a place in a script. -/
inductive Quotes where
  | none
  | single
  | double

/-- The characters up to the end of the present line, and those after it. Line ends in quotes do not
count, nor do quotes in comments. `blank` says whether a blank came before. -/
def splitLine : Quotes → Bool → List Char → List Char × List Char
  | _, _, [] => ([], [])
  | .none, _, '\\' :: c :: cs =>
    let (line, after) := splitLine .none false cs
    ('\\' :: c :: line, after)
  | .double, _, '\\' :: c :: cs =>
    let (line, after) := splitLine .double false cs
    ('\\' :: c :: line, after)
  | .none, blank, c :: cs =>
    if c == '\n' then ([], cs)
    else if c == '#' && blank then
      (c :: cs.takeWhile (· != '\n'), (cs.dropWhile (· != '\n')).drop 1)
    else
      let quotes :=
        if c == '\'' then Quotes.single else if c == '"' then Quotes.double else Quotes.none
      let (line, after) := splitLine quotes (c == ' ' || c == '\t') cs
      (c :: line, after)
  | .single, _, c :: cs =>
    let (line, after) := splitLine (if c == '\'' then .none else .single) false cs
    (c :: line, after)
  | .double, _, c :: cs =>
    let (line, after) := splitLine (if c == '"' then .none else .double) false cs
    (c :: line, after)

/-- Whether a line is joined with the next one. -/
def isJoined (line : List Char) : Bool :=
  (line.reverse.takeWhile (· == '\\')).length % 2 == 1

/-- What was taken out of the lines of a script. -/
structure Document where
  body : List Char
  lines : Nat
  rest : List Char

/-- Takes the lines up to one that is the given text. Leading tabs are dropped where `dropTabs` is
set. Where `joins` is set, a line that is joined to the one before it does not end the text. -/
def documentFrom (delimiter : List Char) (dropTabs joins : Bool) :
    Nat → Bool → List Char → Document
  | 0, _, cs => ⟨[], 0, cs⟩
  | fuel + 1, joined, cs =>
    if cs.isEmpty then ⟨[], 0, []⟩
    else
      let line := cs.takeWhile (· != '\n')
      let rest := cs.dropWhile (· != '\n')
      let kept := if dropTabs && !joined then line.dropWhile (· == '\t') else line
      if !joined && kept == delimiter then ⟨[], 1, rest.drop 1⟩
      else
        let more := documentFrom delimiter dropTabs joins fuel (joins && isJoined line) (rest.drop 1)
        ⟨kept ++ rest.take 1 ++ more.body, more.lines + 1, more.rest⟩

/-- Takes the text of a redirection out of the lines after the present one, and gives it with the
number of its first line. -/
def takeDocument (delimiter : List Char) (dropTabs joins : Bool) : Read (List Char × Nat) := do
  let s ← get
  let (line, after) := splitLine .none false s.rest
  let document := documentFrom delimiter dropTabs joins (after.length + 1) false after
  let rest := if after.isEmpty && document.lines == 0 then s.rest else line ++ '\n' :: document.rest
  set { s with rest, skipped := s.skipped + document.lines }
  return (document.body, s.line + 1 + s.skipped)

/-! ## Aliases -/

/-- Forgets the aliases whose text was read. Tells whether one of them ended in a blank. -/
def closeAliases : Read Bool := do
  let s ← get
  if s.openAliases.isEmpty then return false
  else
    let left := s.rest.length
    let closed := s.openAliases.filter fun a => left ≤ a.after
    set { s with openAliases := s.openAliases.filter fun a => left > a.after }
    return closed.any OpenAlias.endsBlank

/-- Puts the text of an alias in front, unless that text is being read already. -/
def expandAlias (name : String) : Read Bool := do
  let s ← get
  match s.aliases.find? fun a => a.1 == name with
  | none => return false
  | some (_, value) =>
    if s.openAliases.any fun a => a.name == name then return false
    else
      let cs := value.toList
      let endsBlank := cs.getLast?.any fun c => c == ' ' || c == '\t'
      set { s with
        rest := cs ++ s.rest
        openAliases := ⟨name, s.rest.length, endsBlank⟩ :: s.openAliases }
      return true

end Source

end LintRoster.Shell
