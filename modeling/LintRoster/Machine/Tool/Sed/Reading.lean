import LintRoster.Machine.Tool.Sed.Script
import LintRoster.Regex.Reading
import LintRoster.Text.Digit
import LintRoster.Text.Letters

/-!
# Reading scripts

A script is written in parts, each an argument or a file. Parts are read one after the other, and a
block or a text may go on in the next one. `Sed.readParts` reads all of them.
-/

namespace LintRoster.Machine.Tool.Sed

/-- Where a part of a script comes from. -/
inductive Origin where
  | expression (number : Nat)
  | file (name : String)

/-- What is wrong with a script, and the status that it gives. -/
structure Fault where
  text : String
  status : Nat

/-- What was read, and what is left. -/
structure Reading where
  origin : Origin
  rest : List Char
  /-- How many characters of the part were taken, and how many of them end lines. -/
  taken : Nat
  lines : Nat
  extended : Bool
  commands : Array Command
  /-- The places of the blocks that are open, with where they are in words, last first. -/
  blocks : List (Nat × String)
  labels : List (String × Nat)
  isQuiet : Bool
  /-- Whether the text of the last command goes on in the next part. -/
  isPending : Bool

/-- A step in reading a script. -/
abbrev Read :=
  StateT Reading (Except Fault)

/-! ## Faults -/

/-- A place in a part, in words. -/
def Origin.place (o : Origin) (taken lines : Nat) : String :=
  match o with
  | .expression n => "-e expression #" ++ toString n ++ ", char " ++ toString taken ++ ": "
  | .file name => "file " ++ name ++ " line " ++ toString (lines + 1) ++ ": "

/-- Fails at the present place. -/
def bad {α : Type} (message : String) : Read α := do
  let r ← get
  throw ⟨r.origin.place r.taken r.lines ++ message, 1⟩

/-! ## Characters -/

/-- Takes a number of characters. -/
def takeMany (n : Nat) : Read Unit :=
  modify fun r =>
    let lines := ((r.rest.take n).filter (· == '\n')).length
    { r with rest := r.rest.drop n, taken := r.taken + n, lines := r.lines + lines }

/-- The next character, which stays. -/
def peek : Read (Option Char) := do
  return (← get).rest.head?

/-- Takes the next character, if there is one. -/
def next : Read (Option Char) := do
  let c? ← peek
  if c?.isSome then takeMany 1
  return c?

/-- Takes characters as long as they are of a kind. -/
def takeAll (p : Char → Bool) : Read (List Char) := do
  let cs := (← get).rest.takeWhile p
  takeMany cs.length
  return cs

/-- Whether a character is a space or a tab. -/
def isGap (c : Char) : Bool :=
  c == ' ' || c == '\t'

/-- Takes the next character that is no gap. -/
def nextInk : Read (Option Char) := do
  discard (takeAll isGap)
  next

/-- Takes a number. Without digits it is zero. -/
def number : Read Nat := do
  let ds ← takeAll Char.isDigit
  return ((String.ofList ds).toNat?).getD 0

/-- Takes the end of a command. -/
def endOfCommand : Read Unit := do
  discard (takeAll isGap)
  match ← peek with
  | some '\x7d' | some '#' | none => return
  | some c =>
    takeMany 1
    if c != '\n' && c != ';' then bad "extra characters after command"

/-! ## Escapes -/

/-- A character by its number, and what follows. -/
def numbered? (base most : Nat) (cs : List Char) : Option (Char × List Char) :=
  let ds := (cs.take most).takeWhile fun c => (Text.digit? base c).isSome
  (Text.natural? base ds).map fun n => (Char.ofNat (n % 256), cs.drop ds.length)

/-- The character that a text behind a backslash stands for, and what follows. -/
def escaped? (cs : List Char) : Option (Char × List Char) :=
  match cs with
  | 'a' :: cs => some ('\x07', cs)
  | 'f' :: cs => some ('\x0c', cs)
  | 'n' :: cs => some ('\n', cs)
  | 'r' :: cs => some ('\r', cs)
  | 't' :: cs => some ('\t', cs)
  | 'v' :: cs => some ('\x0b', cs)
  | 'c' :: c :: cs => some (Char.ofNat (Nat.xor c.toUpper.toNat 64), cs)
  | 'd' :: cs => numbered? 10 3 cs
  | 'o' :: cs => numbered? 8 3 cs
  | 'x' :: cs => numbered? 16 2 cs
  | _ => none

/-- A text with its escapes replaced. Backslashes in front of other characters stay where `keeps` is
set. -/
def unescape (keeps : Bool) : Nat → List Char → List Char
  | 0, cs => cs
  | _, [] => []
  | fuel + 1, '\\' :: cs =>
    match escaped? cs, cs with
    | some (c, rest), _ => c :: unescape keeps fuel rest
    | none, c :: rest =>
      if keeps then '\\' :: c :: unescape keeps fuel rest else c :: unescape keeps fuel rest
    | none, [] => ['\\']
  | fuel + 1, c :: cs => c :: unescape keeps fuel cs

/-- The bytes of a part of a script, as letters. -/
def lettersOf (cs : List Char) : List Char :=
  Letters.ofText (String.ofList cs)

/-! ## Delimited texts -/

/-- Where in an expression one is. -/
inductive Within where
  | nothing
  /-- In a set, possibly where a closing bracket belongs to it. -/
  | set (isFirst : Bool)
deriving DecidableEq

/-- A text up to a delimiter, after what is known of it, which comes last first. Also gives what
follows, or what is left if there is no delimiter. -/
def delimitedFrom (delimiter : Char) (isExpression : Bool) :
    Nat → Within → List Char → List Char → Except (List Char) (List Char × List Char)
  | 0, _, _, cs => .error cs
  | _, _, _, [] => .error []
  | fuel + 1, within, done, c :: cs =>
    let goOn := delimitedFrom delimiter isExpression fuel
    if c == '\n' then .error (c :: cs)
    else
      match within, c, cs with
      | .nothing, c, cs =>
        if c == delimiter then .ok (done.reverse, cs)
        else if c == '\\' then
          match cs with
          | [] => .error []
          | d :: cs =>
            if d == 'n' && isExpression then goOn .nothing ('\n' :: done) cs
            else if d == '\n' || (d == delimiter && (isExpression || d != '&')) then
              goOn .nothing (d :: done) cs
            else goOn .nothing (d :: '\\' :: done) cs
        else if c == '[' && isExpression then goOn (.set true) (c :: done) cs
        else goOn .nothing (c :: done) cs
      | .set true, '^', cs => goOn (.set (done.head? == some '[')) ('^' :: done) cs
      | .set false, ']', cs => goOn .nothing (']' :: done) cs
      | .set _, '[', sign :: cs =>
        if ['.', ':', '='].contains sign then
          let name := cs.takeWhile fun d => d != sign && d != '\n'
          if (cs.drop name.length).take 2 == [sign, ']'] then
            let piece := '[' :: sign :: (name ++ [sign, ']'])
            goOn (.set false) (piece.reverse ++ done) (cs.drop (name.length + 2))
          else goOn (.set false) ('[' :: done) (sign :: cs)
        else goOn (.set false) ('[' :: done) (sign :: cs)
      | .set _, '\\', 'n' :: cs => goOn (.set false) ('\n' :: done) cs
      | .set _, c, cs => goOn (.set false) (c :: done) cs

/-- Takes a text up to a delimiter, if there is one. -/
def delimited? (delimiter : Char) (isExpression : Bool) : Read (Option (List Char)) := do
  if 128 ≤ delimiter.toNat then bad "delimiter character is not a single-byte character"
  let cs := (← get).rest
  match delimitedFrom delimiter isExpression (cs.length + 1) .nothing [] cs with
  | .ok (text, rest) =>
    takeMany (cs.length - rest.length)
    return some text
  | .error rest =>
    takeMany (cs.length - rest.length)
    return none

/-! ## Expressions -/

/-- Whether an expression is a set without its outer brackets. -/
def isLoose (cs : List Char) : Bool :=
  cs.take 2 == ['[', ':'] && cs.reverse.take 2 == [']', ':']

/-- The expression of a text, and how many groups it has. -/
def sought (cs : List Char) (folds perLine : Bool) : Read (Sought × Nat) := do
  if cs.isEmpty then return (none, 9)
  if isLoose cs then throw ⟨"character class syntax is [[:space:]], not [:space:]", 4⟩
  match Regex.read ⟨(← get).extended, true⟩ (lettersOf (unescape true (cs.length + 1) cs)) with
  | .error fault => bad fault.message
  | .ok (e, _) =>
    let e := if perLine then e.perLine else e
    return (some (Regex.matcher folds e), e.groups)

/-- Takes the letters behind an expression that tells lines. -/
def addressFlags : Nat → Bool → Bool → Read (Bool × Bool)
  | 0, folds, perLine => return (folds, perLine)
  | fuel + 1, folds, perLine => do
    discard (takeAll isGap)
    match ← peek with
    | some 'I' =>
      takeMany 1
      addressFlags fuel true perLine
    | some 'M' =>
      takeMany 1
      addressFlags fuel folds true
    | _ => return (folds, perLine)

/-! ## Selections -/

/-- Takes an address after its first character, if that begins one. -/
def addressAfter (c? : Option Char) : Read (Option Address) := do
  match c? with
  | some '$' => return some .last
  | some '/' | some '\\' =>
    let delimiter ← if c? == some '\\' then next else pure c?
    match ← (delimiter.map fun d => delimited? d true).getD (pure none) with
    | none => bad "unterminated address regex"
    | some cs =>
      let (folds, perLine) ← addressFlags (← get).rest.length false false
      return some (.holding (← sought cs folds perLine).1)
  | some c =>
    if !c.isDigit then return none
    else
      modify fun r => { r with rest := c :: r.rest, taken := r.taken - 1 }
      let first ← number
      discard (takeAll isGap)
      if (← peek) != some '~' then return some (.line first)
      else
        takeMany 1
        discard (takeAll isGap)
        let step ← number
        return some (if step == 0 then .line first else .every first step)
  | none => return none

/-- Takes the end of a range after its first character. -/
def boundAfter (c? : Option Char) : Read Bound := do
  let count : Read Nat := do
    discard (takeAll isGap)
    number
  match c? with
  | some '+' => return .after (← count)
  | some '~' => return .multiple (← count)
  | _ =>
    match ← addressAfter c? with
    | some a => return .address a
    | none => bad "unexpected \x60,'"

/-- Takes a selection. Also gives the character behind it, which is taken too. -/
def selection (c? : Option Char) : Read (Selection × Option Char) := do
  let negation (s : Selection) (c? : Option Char) : Read (Selection × Option Char) := do
    if c? != some '!' then return (s, c?)
    else
      let c? ← nextInk
      if c? == some '!' then bad "multiple \x60!'s" else return ({ s with negated := true }, c?)
  if c? == some '+' || c? == some '~' then
    discard (boundAfter c?)
    bad "invalid usage of +N or ~N as first address"
  match ← addressAfter c? with
  | none => negation ⟨none, none, false⟩ c?
  | some first =>
    let c? ← nextInk
    let (second, c?) ← do
      if c? != some ',' then pure (none, c?)
      else
        let bound ← boundAfter (← nextInk)
        pure (some bound, ← nextInk)
    let isZero := first matches .line 0
    let mayBeZero := second matches some (.address (.holding _)) || c? == some 'r'
    if isZero && !mayBeZero then bad "invalid usage of line address 0"
    negation ⟨some first, second, false⟩ c?

/-! ## Texts -/

/-- A text up to the end of its line, with the escapes left in it, after what is known of it, which
comes last first. Also gives what follows, and whether the text goes on in the next part. -/
def textFrom : List Char → List Char → List Char × List Char × Bool
  | done, [] => (done.reverse, [], false)
  | done, '\\' :: [] => (done.reverse, [], true)
  | done, '\\' :: c :: cs => textFrom (c :: '\\' :: done) cs
  | done, c :: cs => if c == '\n' then (done.reverse, cs, false) else textFrom (c :: done) cs

/-- Takes a text up to the end of its line. -/
def textLine : Read (List UInt8) := do
  let cs := (← get).rest
  let (text, rest, isPending) := textFrom [] cs
  takeMany (cs.length - rest.length)
  modify fun r => { r with isPending }
  return Bytes.toBytes (String.ofList (unescape false (text.length + 1) text)) ++ [10]

/-- Takes the text of a command. -/
def text : Read (List UInt8) := do
  discard (takeAll isGap)
  match (← get).rest with
  | [] => bad "expected \\ after \x60a', \x60c' or \x60i'"
  | ['\\'] =>
    takeMany 1
    modify fun r => { r with isPending := true }
    return []
  | '\\' :: c :: _ =>
    takeMany (if c == '\n' then 2 else 1)
    textLine
  | _ => textLine

/-- Goes on with the text of the last command. -/
def moreText : Read Unit := do
  modify fun r => { r with isPending := false }
  let more ← textLine
  modify fun r =>
    let last := r.commands.size - 1
    let extend (action : Action) : Action :=
      match action with
      | .append t => .append (t ++ more)
      | .insert t => .insert (t ++ more)
      | .change t => .change (t ++ more)
      | action => action
    { r with commands := r.commands.modify last fun c => { c with action := extend c.action } }

/-- Takes the name of a file. -/
def fileName : Read String := do
  discard (takeAll isGap)
  let name ← takeAll (· != '\n')
  discard next
  if name.isEmpty then bad "missing filename in r/R/w/W commands" else return String.ofList name

/-- Takes the name of a file to write. -/
def target : Read Target := do
  let name ← fileName
  return if name == "/dev/stdout" then .output
    else if name == "/dev/stderr" then .complaints
    else .file name

/-- Takes a label. -/
def label : Read String := do
  discard (takeAll isGap)
  let cs ← takeAll fun c => !(c.isWhitespace || c == ';' || c == '\x7d')
  return String.ofList cs

/-! ## Substitutions -/

/-- The pieces of what is put in the place of a match, after text that comes last first. -/
def pieces : Nat → List Char → List Char → List Piece
  | 0, _, _ => []
  | fuel + 1, before, cs =>
    let ends (more : List Piece) : List Piece :=
      if before.isEmpty then more else .text (lettersOf before.reverse) :: more
    match cs with
    | [] => ends []
    | '&' :: cs => ends (.group 0 :: pieces fuel [] cs)
    | '\\' :: c :: rest =>
      let piece? : Option Piece :=
        match c with
        | 'U' => some (.casing .capital)
        | 'L' => some (.casing .small)
        | 'E' => some (.casing .kept)
        | 'u' => some (.casingOnce .capital)
        | 'l' => some (.casingOnce .small)
        | c => if c.isDigit then some (.group (c.toNat - '0'.toNat)) else none
      match piece?, escaped? (c :: rest) with
      | some piece, _ => ends (piece :: pieces fuel [] rest)
      | none, some (d, rest) => pieces fuel (d :: before) rest
      | none, none => pieces fuel (c :: before) rest
    | c :: cs => pieces fuel (c :: before) cs

/-- What stands behind a substitution. -/
structure Flags where
  folds : Bool
  perLine : Bool
  everywhere : Bool
  prints : Bool
  evaluates : Bool
  number : Option Nat
  target : Option Target

/-- Takes what stands behind a substitution, up to the end of the command. -/
def flags : Nat → Flags → Read Flags
  | 0, f => return f
  | fuel + 1, f => do
    match ← peek with
    | none | some '\x7d' | some '#' => return f
    | some c =>
      if c.isDigit then
        let n ← number
        if f.number.isSome then bad "multiple number options to \x60s' command"
        else if n == 0 then bad "number option to \x60s' command may not be zero"
        else flags fuel { f with number := some n }
      else
        takeMany 1
        match c with
        | ' ' | '\t' => flags fuel f
        | 'i' | 'I' => flags fuel { f with folds := true }
        | 'm' | 'M' => flags fuel { f with perLine := true }
        | 'e' => flags fuel { f with evaluates := true }
        | 'p' =>
          if f.prints then bad "multiple \x60p' options to \x60s' command"
          else flags fuel { f with prints := true }
        | 'g' =>
          if f.everywhere then bad "multiple \x60g' options to \x60s' command"
          else flags fuel { f with everywhere := true }
        | 'w' => return { f with target := some (← target) }
        | '\n' | ';' => return f
        | _ => bad "unknown option to \x60s'"

/-- The last group that pieces refer to. -/
def lastGroup (ps : List Piece) : Nat :=
  ps.foldl (fun n p =>
    match p with
    | .group k => max n k
    | _ => n) 0

/-- Takes a substitution. -/
def substitution : Read Action := do
  let unterminated : Read Action := bad "unterminated \x60s' command"
  match ← next with
  | none => unterminated
  | some delimiter =>
    match ← delimited? delimiter true with
    | none => unterminated
    | some expression =>
      match ← delimited? delimiter false with
      | none => unterminated
      | some replacement =>
        let ps := pieces (replacement.length + 1) [] replacement
        let f ← flags ((← get).rest.length + 1) ⟨false, false, false, false, false, none, none⟩
        let (e, groups) ← sought expression f.folds f.perLine
        if groups < lastGroup ps then
          bad ("invalid reference \\" ++ toString (lastGroup ps) ++ " on \x60s' command's RHS")
        return .substitute ⟨e, ps, f.number.getD 1, f.everywhere, f.prints, f.evaluates, f.target⟩

/-- Takes a list of letters that are replaced by others. -/
def transliteration : Read Action := do
  let unterminated : Read Action := bad "unterminated \x60y' command"
  match ← next with
  | none => unterminated
  | some delimiter =>
    match ← delimited? delimiter false with
    | none => unterminated
    | some old =>
      match ← delimited? delimiter false with
      | none => unterminated
      | some new =>
        let letters (cs : List Char) : List Char := lettersOf (unescape false (cs.length + 1) cs)
        let (old, new) := (letters old, letters new)
        if old.length != new.length then bad "strings for \x60y' command are different lengths"
        endOfCommand
        return .transliterate (old.zip new)

/-! ## Commands -/

/-- The actions of letters that nothing else belongs to. -/
def plainActions : List (Char × Action) :=
  [('=', .number), ('d', .delete), ('D', .deleteLine), ('F', .showName), ('g', .takeHeld),
    ('G', .addHeld), ('h', .hold), ('H', .addToHeld), ('n', .next), ('N', .addNext), ('p', .print),
    ('P', .printLine), ('z', .clear), ('x', .exchange)]

/-- Takes a number that may be there, and the end of a command. -/
def lastNumber? : Read (Option Nat) := do
  discard (takeAll isGap)
  let n? ← do
    if (← peek).any Char.isDigit then pure (some (← number)) else pure none
  endOfCommand
  return n?

/-- Takes the end of a command whose letter and selection were taken. -/
def actionAfter (s : Selection) (c : Char) : Read Action := do
  match c with
  | 'a' => return .append (← text)
  | 'i' => return .insert (← text)
  | 'c' => return .change (← text)
  | ':' =>
    if s.first.isSome then bad ": doesn't want any addresses"
    let name ← label
    if name == "" then bad "\":\" lacks a label"
    modify fun r => { r with labels := (name, r.commands.size) :: r.labels }
    return .nothing
  | 'b' => return .jump .always (← label)
  | 't' => return .jump .ifReplaced (← label)
  | 'T' => return .jump .unlessReplaced (← label)
  | 'v' =>
    discard label
    return .nothing
  | 'e' =>
    discard (takeAll isGap)
    let command ← takeAll (· != '\n')
    discard next
    return .evaluate (Bytes.toBytes (String.ofList command))
  | 'l' => return .list (← lastNumber?)
  | 'q' | 'Q' =>
    if s.second.isSome then bad "command only uses one address"
    return .quit (c == 'q') ((← lastNumber?).getD 0 % 256)
  | 'r' => return .readFile (← fileName)
  | 'R' => return .readLine (← fileName)
  | 'w' => return .write (← target)
  | 'W' => return .writeLine (← target)
  | 's' => substitution
  | 'y' => transliteration
  | c =>
    match plainActions.lookup c with
    | some action =>
      endOfCommand
      return action
    | none => bad ("unknown command: \x60" ++ String.singleton c ++ "'")

/-- Adds a command. -/
def add (c : Command) : Read Unit :=
  modify fun r => { r with commands := r.commands.push c }

/-- Takes a comment after its sign. At the very beginning of a script it may keep lines from being
printed. -/
def comment : Read Unit := do
  let r ← get
  let isFirst :=
    match r.origin with
    | .expression n => n ≤ 1
    | .file _ => true
  let isQuiet := isFirst && r.taken == 1 && r.commands.isEmpty && r.rest.head? == some 'n'
  if isQuiet then modify fun r => { r with isQuiet := true }
  discard (takeAll (· != '\n'))

/-- Takes the end of a block after its brace. -/
def blockEnd (s : Selection) : Read Unit := do
  match (← get).blocks with
  | [] => bad "unexpected \x60\x7d'"
  | (start, _) :: blocks =>
    if s.first.isSome then bad "\x7d doesn't want any addresses"
    endOfCommand
    modify fun r =>
      let commands := r.commands.modify start fun c => { c with action := .block r.commands.size }
      { r with commands, blocks }

/-- Takes the commands of a part. -/
def commands : Nat → Read Unit
  | 0 => return
  | fuel + 1 => do
    discard (takeAll fun c => c.isWhitespace || c == ';')
    match ← next with
    | none => return
    | some c =>
      let (s, c?) ← selection (some c)
      match c? with
      | none => bad "missing command"
      | some '#' =>
        if s.first.isSome then bad "comments don't accept any addresses"
        comment
      | some '\x7b' =>
        let r ← get
        let place :=
          match r.origin with
          | .expression _ => r.origin.place 0 0
          | .file _ => r.origin.place r.taken r.lines
        modify fun r => { r with blocks := (r.commands.size, place) :: r.blocks }
        add ⟨s, .block 0⟩
      | some '\x7d' => blockEnd s
      | some c => add ⟨s, ← actionAfter s c⟩
      commands fuel

/-- Takes a part. -/
def part (origin : Origin) (source : String) : Read Unit := do
  modify fun r => { r with origin, rest := source.toList, taken := 0, lines := 0 }
  if (← get).isPending && source != "" then moreText
  commands (source.length + 1)

/-- Reads the parts of a script. -/
def readParts (extended : Bool) (parts : List (Origin × String)) : Except Fault Script := do
  let all : Read Unit := parts.forM fun p => part p.1 p.2
  let (_, r) ← all.run ⟨.expression 1, [], 0, 0, extended, #[], [], [], false, false⟩
  match r.blocks with
  | (_, place) :: _ => throw ⟨place ++ "unmatched \x60\x7b'", 1⟩
  | [] =>
    let script : Script := ⟨r.commands, r.labels, r.isQuiet⟩
    match script.missingLabel? with
    | some name => throw ⟨"can't find label for jump to \x60" ++ name ++ "'", 4⟩
    | none => return script

end LintRoster.Machine.Tool.Sed
