import LintRoster.Shell.Source

/-!
# Reading scripts

`Reader.next` reads the next command of a script, up to the end of its last line. A script is read no
further than it is carried out, so what stands before a fault still counts. Scripts inside of
expansions are read together with the word that they stand in.
-/

namespace LintRoster.Shell.Reader

open Source

/-- What a token may be besides a word: line ends may be skipped, keywords may be recognised, and
aliases may be replaced. -/
structure Hints where
  skipsLines : Bool
  keywords : Bool
  aliases : Bool

/-- Nothing but words and operators is recognised. -/
def Hints.plain : Hints :=
  ⟨false, false, false⟩

/-- A command may begin here. -/
def Hints.command : Hints :=
  ⟨false, true, true⟩

/-- A command may begin here or on a later line. -/
def Hints.laterCommand : Hints :=
  ⟨true, true, true⟩

/-- Where the parts of a word are read. -/
inductive Place where
  /-- Outside of quotes and braces. -/
  | bare
  /-- Between double quotes, possibly those within braces. -/
  | quotes (inBraces : Bool)
  /-- Between the braces of a parameter: outside of quotes or inside of them, within a document or
  not. While quotes within the quotes are open, a closing brace is text. -/
  | braces (quoted document isOpen : Bool)
  /-- Between the parentheses of arithmetic, within more parentheses. -/
  | arithmetic (depth : Nat)
  /-- In the text of a redirection. -/
  | document
deriving DecidableEq

namespace Place

/-- Whether text in this place is quoted. -/
def isQuoted : Place → Bool
  | bare => false
  | braces quoted _ _ => quoted
  | _ => true

/-- Whether this place is in a document. -/
def inDocument : Place → Bool
  | document => true
  | braces _ inside _ => inside
  | _ => false

/-- The place between the braces of a parameter that stands in this place. -/
def within (p : Place) : Place :=
  braces p.isQuoted p.inDocument false

/-- The place of a pattern that stands in this place. -/
def forPattern (p : Place) : Place :=
  braces false p.inDocument false

/-- What is wrong if the script ends in this place, if anything is. -/
def atEnd? : Place → Option Complaint
  | bare | document => none
  | quotes _ => some .unterminatedQuote
  | braces true false _ => some .unterminatedQuote
  | braces _ _ _ => some .missingBrace
  | arithmetic _ => some .missingParentheses

/-- Whether a backslash in this place, which is quoted, protects a character. -/
def protects (p : Place) (c : Char) : Bool :=
  ['\\', '\x60', '$'].contains c || (c == '"' && p != document) ||
    (c == '\x7d' &&
      match p with
      | quotes inBraces => inBraces
      | braces _ _ _ => true
      | _ => false)

end Place

/-- Adds a character to parts, of which the last is first. Text of one kind stays one part. -/
def addChar (c : Char) (quoted : Bool) (parts : Word) : Word :=
  match parts with
  | .text s q :: rest =>
    if q == quoted then .text (s.push c) q :: rest
    else .text (String.singleton c) quoted :: .text s q :: rest
  | parts => .text (String.singleton c) quoted :: parts

/-- Quoted parts in front of others, all of them last first, with a mark that they were quoted. No
mark is needed for the list of arguments alone. -/
def addQuoted (inner parts : Word) : Word :=
  match inner with
  | [.parameter "@" .keep _] => inner ++ parts
  | inner => inner ++ .text "" true :: parts

/-- The characters up to a quote, which must be there. -/
def singleQuotedFrom : Nat → List Char → Read (List Char)
  | 0, before => return before.reverse
  | fuel + 1, before => do
    match ← next with
    | none => complain .unterminatedQuote
    | some '\'' => return before.reverse
    | some c => singleQuotedFrom fuel (c :: before)

/-- The script between backquotes. Backslashes that protect signs in it are dropped. -/
def backquotedFrom (quoted : Bool) : Nat → List Char → Read (List Char)
  | 0, before => return before.reverse
  | fuel + 1, before => do
    match ← nextJoined with
    | none => complain .endInBackquotes
    | some '\x60' => return before.reverse
    | some '\\' =>
      match ← next with
      | none => complain .endInBackquotes
      | some c =>
        if ['\\', '\x60', '$'].contains c || (quoted && c == '"') then
          backquotedFrom quoted fuel (c :: before)
        else backquotedFrom quoted fuel (c :: '\\' :: before)
    | some c => backquotedFrom quoted fuel (c :: before)

/-- The characters of a word that ends a document, and whether it holds quotes. -/
def delimiterFrom : Nat → List Char → Bool → Read (List Char × Bool)
  | 0, before, quoted => return (before.reverse, quoted)
  | fuel + 1, before, quoted => do
    match ← peek with
    | none => return (before.reverse, quoted)
    | some c =>
      if Word.isMeta c then return (before.reverse, quoted)
      else
        discard next
        if c == '\\' then
          match ← next with
          | none => return (('\\' :: before).reverse, true)
          | some d => delimiterFrom fuel (d :: before) true
        else if c == '\'' then
          let inner ← singleQuotedFrom ((← get).rest.length + 1) []
          delimiterFrom fuel (inner.reverse ++ before) true
        else if c == '"' then doubleQuoted fuel before
        else delimiterFrom fuel (c :: before) quoted
where
  /-- The characters up to a double quote. -/
  doubleQuoted : Nat → List Char → Read (List Char × Bool)
    | 0, before => return (before.reverse, true)
    | fuel + 1, before => do
      match ← nextJoined with
      | none => complain .unterminatedQuote
      | some '"' => delimiterFrom fuel before true
      | some c => doubleQuoted fuel (c :: before)

/-- What follows the name of a parameter between braces: the change without its word. -/
inductive Operator where
  | change (make : Word → Change)
  | pattern (make : Word → Change)
  | closed

/-- The change that a sign stands for. -/
def changeOf? (evenIfEmpty : Bool) (c : Char) : Option (Word → Change) :=
  match c with
  | '-' => some (.orDefault evenIfEmpty)
  | '=' => some (.orAssign evenIfEmpty)
  | '?' => some (.orFail evenIfEmpty)
  | '+' => some (.ifSet evenIfEmpty)
  | _ => none

/-- Reads what follows the name of a parameter between braces. -/
def readOperator : Read Operator := do
  match ← nextJoined with
  | none => return .change fun _ => .malformed
  | some '\x7d' => return .closed
  | some '%' =>
    let longest ← take? '%'
    return .pattern (.cutEnd longest)
  | some '#' =>
    let longest ← take? '#'
    return .pattern (.cutStart longest)
  | some ':' =>
    match ← nextJoined with
    | none => return .change fun _ => .malformed
    | some c => return .change ((changeOf? true c).getD fun _ => .malformed)
  | some c => return .change ((changeOf? false c).getD fun _ => .malformed)

/-- The name of a parameter between braces, and whether its length is asked for. -/
def readBracedName : Read (Option (String × Bool)) := do
  match ← peek with
  | none => return none
  | some c =>
    if Word.isNameStart c then
      return some (String.ofList (← takeWhile Word.isNameChar), false)
    else if c.isDigit then
      return some (String.ofList (← takeWhile Char.isDigit), false)
    else if c == '#' then
      discard next
      match ← peek with
      | none => return some ("#", false)
      | some d =>
        if Word.isNameStart d then
          return some (String.ofList (← takeWhile Word.isNameChar), true)
        else if d.isDigit then
          return some (String.ofList (← takeWhile Char.isDigit), true)
        else
          let s ← get
          discard next
          if d != '\x7d' && (← peek) == some '\x7d' && Word.isSpecial d then
            return some (String.singleton d, true)
          else
            set s
            return some ("#", false)
    else if Word.isSpecial c then
      discard next
      return some (String.singleton c, false)
    else return none

/-- The token of an operator of one or two characters. -/
def readOperatorToken (c : Char) : Read Token := do
  if c == '&' || c == '|' || c == ';' then
    if ← take? c then return .operator (String.ofList [c, c])
  return .operator (String.singleton c)

/-- The token of a redirection, from its sign on. -/
def readRedirectToken (stream : Option Nat) : Read Token := do
  if ← take? '>' then
    if ← take? '>' then return .redirect stream ">>"
    if ← take? '|' then return .redirect stream ">|"
    if ← take? '&' then return .redirect stream ">&"
    return .redirect stream ">"
  else
    discard next
    if ← take? '<' then
      if ← take? '-' then return .redirect stream "<<-"
      return .redirect stream "<<"
    if ← take? '&' then return .redirect stream "<&"
    if ← take? '>' then return .redirect stream "<>"
    return .redirect stream "<"

/-- The number of a stream, if a word is one digit. -/
def streamOf? (w : Word) (quoted : Bool) : Option (Option Nat) :=
  if quoted then none
  else
    match w with
    | [] => some none
    | [.text s false] =>
      match s.toList with
      | [c] => if c.isDigit then some (some (c.toNat - 0x30)) else none
      | _ => none
    | _ => none

/-- The redirection that an operator makes with a word, unless it is about a document. -/
def redirectOf (stream : Option Nat) (operator : String) (w : Word) : Redirect :=
  let copied (fd : Nat) : Redirect :=
    match w with
    | [.text "-" false] => .copy fd none
    | w =>
      match streamOf? w false with
      | some (some n) => .copy fd (some n)
      | _ => .copyNamed fd w
  if operator == ">" then .file (stream.getD 1) .writeNew w
  else if operator == ">|" then .file (stream.getD 1) .write w
  else if operator == ">>" then .file (stream.getD 1) .append w
  else if operator == "<>" then .file (stream.getD 0) .update w
  else if operator == ">&" then copied (stream.getD 1)
  else if operator == "<&" then copied (stream.getD 0)
  else .file (stream.getD 0) .read w

/-- What was read of a simple command. -/
structure Draft where
  assigns : List (String × Word)
  words : List Word
  redirects : List Redirect

/-- The commands whose names no function may have. -/
def specialNames : List String :=
  [".", ":", "break", "continue", "eval", "exec", "exit", "export", "local", "readonly", "return",
    "set", "shift", "times", "trap", "unset"]

/-- Refuses the last token. -/
def unexpected {α : Type} (expected : Option String) : Read α := do
  complain (.unexpected (← get).last.describe expected)

/-- Reads the last token again. -/
def pushBack : Read Unit :=
  modify fun s => { s with isPushed := true }

/-- A list of commands with one more. -/
def andThen : Option Statement → Statement → Option Statement
  | none, s => some s
  | some first, s => some (.sequence first s)

/-- A command that is carried out in the background. -/
def background (line : Nat) : Statement → Statement
  | .pipeline stages _ => .pipeline stages true
  | .redirected line body rs => .inBackground line body rs
  | s => .inBackground line s []

mutual

/-- Reads the parts of a word, after those in `before`, last first, up to the end of their place.
Tells whether there are quotes among them. -/
def parts : Nat → Place → Word → Bool → Read (Word × Bool)
  | 0, _, before, quoted => return (before, quoted)
  | fuel + 1, place, before, quoted => do
    match ← peek with
    | none =>
      match place.atEnd? with
      | none => return (before, quoted)
      | some c => complain c
    | some c =>
      if place == .bare && Word.isMeta c then return (before, quoted)
      else
        discard next
        if c == '\\' then
          match ← next with
          | none => return (addChar '\\' true before, true)
          | some d =>
            if place.isQuoted && !place.protects d then
              parts fuel place (addChar d true (addChar '\\' true before)) quoted
            else parts fuel place (addChar d true before) true
        else if c == '$' then
          let before ← dollar fuel place before
          parts fuel place before quoted
        else if c == '\x60' then
          let body ← backquoted fuel place.isQuoted
          parts fuel place (.command body place.isQuoted :: before) quoted
        else
          match place, c with
          | .quotes _, '"' => return (before, true)
          | .braces isQuoted document isOpen, '"' =>
            if isQuoted then
              parts fuel (.braces true document (!isOpen)) before true
            else
              let (inner, _) ← parts fuel (.quotes true) [] true
              parts fuel place (addQuoted inner before) true
          | .bare, '"' =>
            let (inner, _) ← parts fuel (.quotes false) [] true
            parts fuel place (addQuoted inner before) true
          | .bare, '\'' | .braces false _ _, '\'' =>
            let inner ← singleQuotedFrom ((← get).rest.length + 1) []
            parts fuel place (.text (String.ofList inner) true :: before) true
          | .braces isQuoted _ isOpen, '\x7d' =>
            if isOpen then parts fuel place (addChar c isQuoted before) quoted
            else return (before, quoted)
          | .arithmetic depth, '(' =>
            parts fuel (.arithmetic (depth + 1)) (addChar c true before) quoted
          | .arithmetic 0, ')' =>
            if ← take? ')' then return (before, quoted)
            else parts fuel place (addChar c true before) quoted
          | .arithmetic (depth + 1), ')' =>
            parts fuel (.arithmetic depth) (addChar c true before) quoted
          | place, c => parts fuel place (addChar c place.isQuoted before) quoted

/-- Reads an expansion after its dollar sign, and adds it to parts, last first. A dollar sign that
begins none is text. -/
def dollar : Nat → Place → Word → Read Word
  | 0, _, before => return before
  | fuel + 1, place, before => do
    let quoted := place.isQuoted
    match ← peek with
    | none => return addChar '$' quoted before
    | some c =>
      if c == '(' then
        discard next
        if ← take? '(' then
          let (body, _) ← parts fuel (.arithmetic 0) [] true
          return .arithmetic body.reverse quoted :: before
        else
          let body ← commands fuel true true
          expectToken fuel Hints.plain ")"
          return .command (body.getD .nothing) quoted :: before
      else if c == '\x7b' then
        discard next
        let part ← braced fuel place
        return part :: before
      else if Word.isNameStart c then
        let name ← takeWhile Word.isNameChar
        return .parameter (String.ofList name) .keep quoted :: before
      else if c.isDigit || Word.isSpecial c then
        discard next
        return .parameter (String.singleton c) .keep quoted :: before
      else return addChar '$' quoted before

/-- Reads a parameter after its opening brace. -/
def braced : Nat → Place → Read Part
  | 0, _ => return .text "" true
  | fuel + 1, place => do
    let quoted := place.isQuoted
    match ← readBracedName with
    | none =>
      let _ ← parts fuel place.within [] quoted
      return .parameter "" .malformed quoted
    | some (name, true) =>
      let empty := (← peek) == some '\x7d'
      let _ ← parts fuel place.within [] quoted
      return .parameter name (if empty then .length else .malformed) quoted
    | some (name, false) =>
      match ← readOperator with
      | .closed => return .parameter name .keep quoted
      | .change make =>
        let (w, _) ← parts fuel place.within [] quoted
        return .parameter name (make w.reverse) quoted
      | .pattern make =>
        let (w, _) ← parts fuel place.forPattern [] quoted
        return .parameter name (make w.reverse) quoted

/-- Reads a script between backquotes, after the first one. -/
def backquoted : Nat → Bool → Read Statement
  | 0, _ => return .nothing
  | fuel + 1, quoted => do
    let script ← backquotedFrom quoted ((← get).rest.length + 1) []
    let outer ← get
    set { Source.ofText "" outer.aliases with rest := script }
    let body ← commands fuel true true
    set outer
    return body.getD .nothing

/-- Reads a token that may be a word, an operator or a line end. -/
def rawToken : Nat → Read Token
  | 0 => return .endOfFile
  | fuel + 1 => do
    skipBlanks
    match ← peek with
    | none => return .endOfFile
    | some c =>
      if c == '#' then
        skipLine
        rawToken fuel
      else if c == '\n' then
        discard next
        return .lineEnd
      else if ['&', '|', ';', '(', ')'].contains c then
        discard next
        readOperatorToken c
      else
        let (w, quoted) ← parts fuel .bare [] false
        let w := w.reverse
        match streamOf? w quoted, ← peek with
        | some stream, some '<' | some stream, some '>' => readRedirectToken stream
        | _, _ => return .word w quoted

/-- Reads a token, or the last one again if it was pushed back. -/
def token : Nat → Hints → Read Token
  | 0, _ => return .endOfFile
  | fuel + 1, hints => do
    let s ← get
    let wasPushed := s.isPushed
    let mut t := s.last
    let mut aliases := hints.aliases && !wasPushed
    if wasPushed then set { s with isPushed := false }
    else
      skipBlanks
      let ended ← closeAliases
      t ← rawToken fuel
      aliases := aliases || ended
    if hints.skipsLines then
      if let .lineEnd := t then
        modify fun s => { s with last := .lineEnd }
        return ← token fuel hints
    if let .word w false := t then
      if let some name := Word.bare? w then
        if hints.keywords && Token.keywords.contains name then t := .keyword name
        else if aliases && (← expandAlias name) then
          return ← token fuel { hints with aliases }
    modify fun s => { s with last := t }
    return t

/-- Reads a certain operator or keyword. -/
def expectToken : Nat → Hints → String → Read Unit
  | 0, _, s => unexpected (some (Token.inQuotes s))
  | fuel + 1, hints, s => do
    match ← token fuel hints with
    | .operator t | .keyword t =>
      if t == s then return () else unexpected (some (Token.inQuotes s))
    | _ => unexpected (some (Token.inQuotes s))

/-- Reads commands up to a token that ends a list. There must be at least one of them, unless
`mayBeEmpty` is set. -/
def commands : Nat → Bool → Bool → Read (Option Statement)
  | 0, _, _ => return none
  | fuel + 1, mayBeEmpty, _ => commandsFrom fuel none mayBeEmpty

/-- Reads commands after those in `before`. -/
def commandsFrom : Nat → Option Statement → Bool → Read (Option Statement)
  | 0, before, _ => return before
  | fuel + 1, before, mayEnd => do
    let t ← token fuel Hints.laterCommand
    if let .endOfFile := t then
      pushBack
      return before
    pushBack
    if mayEnd && t.endsList then return before
    else
      let line := (← get).line
      let s ← andOr fuel
      match ← token fuel Hints.plain with
      | .operator "&" => commandsFrom fuel (andThen before (background line s)) true
      | .operator ";" => commandsFrom fuel (andThen before s) true
      | .lineEnd =>
        pushBack
        commandsFrom fuel (andThen before s) true
      | _ =>
        pushBack
        return andThen before s

/-- Reads pipelines joined by conditions. -/
def andOr : Nat → Read Statement
  | 0 => return .nothing
  | fuel + 1 => do
    let first ← pipeline fuel Hints.plain
    andOrFrom fuel first

/-- Reads further pipelines after a first one. -/
def andOrFrom : Nat → Statement → Read Statement
  | 0, first => return first
  | fuel + 1, first => do
    match ← token fuel Hints.plain with
    | .operator "&&" => andOrFrom fuel (.both first (← pipeline fuel Hints.laterCommand))
    | .operator "||" => andOrFrom fuel (.either first (← pipeline fuel Hints.laterCommand))
    | _ =>
      pushBack
      return first

/-- Reads a pipeline, which may be negated. -/
def pipeline : Nat → Hints → Read Statement
  | 0, _ => return .nothing
  | fuel + 1, hints => do
    match ← token fuel hints with
    | .keyword "!" => return .negated (← stages fuel [← command fuel Hints.command])
    | _ =>
      pushBack
      stages fuel [← command fuel Hints.plain]

/-- Reads further stages of a pipeline after those in `before`, last first. -/
def stages : Nat → List Statement → Read Statement
  | 0, before => return .pipeline before.reverse false
  | fuel + 1, before => do
    match ← token fuel Hints.plain with
    | .operator "|" => stages fuel ((← command fuel Hints.laterCommand) :: before)
    | _ =>
      pushBack
      match before with
      | [s] => return s
      | ss => return .pipeline ss.reverse false

/-- Reads one command with its redirections. -/
def command : Nat → Hints → Read Statement
  | 0, _ => return .nothing
  | fuel + 1, hints => do
    let line := (← get).line
    match ← token fuel hints with
    | .keyword "if" => compound fuel line (← conditional fuel)
    | .keyword "while" => compound fuel line (← loop fuel false)
    | .keyword "until" => compound fuel line (← loop fuel true)
    | .keyword "for" => compound fuel line (← each fuel line)
    | .keyword "case" => compound fuel line (← select fuel line)
    | .operator "(" =>
      let body ← commands fuel false true
      expectToken fuel Hints.plain ")"
      compound fuel line (.subshell line (body.getD .nothing) [])
    | .keyword "\x7b" =>
      let body ← commands fuel false true
      expectToken fuel Hints.plain "\x7d"
      compound fuel line (body.getD .nothing)
    | .word _ _ | .redirect _ _ =>
      pushBack
      let line := (← get).line
      simple fuel line true ⟨[], [], []⟩
    | _ => unexpected none

/-- Reads the redirections after a compound command. -/
def compound : Nat → Nat → Statement → Read Statement
  | 0, _, s => return s
  | fuel + 1, line, s => do
    let rs ← redirects fuel []
    match rs, s with
    | [], s => return s
    | rs, .subshell line body _ => return .subshell line body rs
    | rs, s => return .redirected line s rs

/-- Reads redirections after those in `before`. -/
def redirects : Nat → List Redirect → Read (List Redirect)
  | 0, before => return before
  | fuel + 1, before => do
    match ← token fuel Hints.command with
    | .redirect stream operator =>
      redirects fuel (before ++ [← redirect fuel stream operator])
    | _ =>
      pushBack
      return before

/-- Reads the word of a redirection. -/
def redirect : Nat → Option Nat → String → Read Redirect
  | 0, _, _ => unexpected none
  | fuel + 1, stream, operator => do
    if operator == "<<" || operator == "<<-" then
      skipBlanks
      let (delimiter, quoted) ← delimiterFrom ((← get).rest.length + 1) [] false
      if delimiter.isEmpty && !quoted then
        discard (token fuel Hints.plain)
        unexpected none
      let (body, line) ← takeDocument delimiter (operator == "<<-") (!quoted)
      if quoted then return .document (stream.getD 0) [.text (String.ofList body) true]
      else
        let outer ← get
        set { Source.ofText "" outer.aliases with rest := body, line }
        let (w, _) ← parts fuel .document [] true
        set outer
        return .document (stream.getD 0) w.reverse
    else
      match ← token fuel Hints.plain with
      | .word w _ => return redirectOf stream operator w
      | _ => unexpected none

/-- Reads the rest of a simple command. Assignments and aliases are recognised in front of its first
word. A word with parentheses behind it defines a function. -/
def simple : Nat → Nat → Bool → Draft → Read Statement
  | 0, _, _, _ => return .nothing
  | fuel + 1, line, isFront, d => do
    match ← token fuel ⟨false, false, isFront⟩ with
    | .word w _ =>
      match isFront, Word.assignment? w with
      | true, some a => simple fuel line true { d with assigns := d.assigns ++ [a] }
      | _, _ => simple fuel line false { d with words := d.words ++ [w] }
    | .redirect stream operator =>
      let r ← redirect fuel stream operator
      simple fuel line isFront { d with redirects := d.redirects ++ [r] }
    | .operator "(" =>
      match d.assigns, d.words, d.redirects with
      | [], [w], [] => function fuel w
      | _, _, _ =>
        pushBack
        return .simple line d.assigns d.words d.redirects
    | _ =>
      pushBack
      return .simple line d.assigns d.words d.redirects

/-- Reads a function after its name and the opening parenthesis. -/
def function : Nat → Word → Read Statement
  | 0, _ => return .nothing
  | fuel + 1, w => do
    expectToken fuel Hints.plain ")"
    match (Word.bare? w).filter fun s => Word.isName s && !specialNames.contains s with
    | none => complain .badFunctionName
    | some name =>
      let line := (← get).line
      return .define line name (← command fuel Hints.laterCommand)

/-- Reads a conditional command after its first word. -/
def conditional : Nat → Read Statement
  | 0 => return .nothing
  | fuel + 1 => do
    let test ← commands fuel false true
    expectToken fuel Hints.plain "then"
    let yes ← commands fuel false true
    match ← token fuel Hints.plain with
    | .keyword "elif" => return .conditional (test.getD .nothing) (yes.getD .nothing) (← conditional fuel)
    | .keyword "else" =>
      let no ← commands fuel false true
      expectToken fuel Hints.plain "fi"
      return .conditional (test.getD .nothing) (yes.getD .nothing) (no.getD .nothing)
    | _ =>
      pushBack
      expectToken fuel Hints.plain "fi"
      return .conditional (test.getD .nothing) (yes.getD .nothing) .nothing

/-- Reads the body of a loop. -/
def body : Nat → Read Statement
  | 0 => return .nothing
  | fuel + 1 => do
    let s ← commands fuel false true
    expectToken fuel Hints.plain "done"
    return s.getD .nothing

/-- Reads a loop with a condition after its first word. -/
def loop : Nat → Bool → Read Statement
  | 0, _ => return .nothing
  | fuel + 1, untilTrue => do
    let test ← commands fuel false true
    expectToken fuel Hints.plain "do"
    return .loop untilTrue (test.getD .nothing) (← body fuel)

/-- Reads a loop over words after its first word. -/
def each : Nat → Nat → Read Statement
  | 0, _ => return .nothing
  | fuel + 1, line => do
    let name ←
      match ← token fuel Hints.plain with
      | .word w false =>
        match (Word.bare? w).filter Word.isName with
        | some name => pure name
        | none => complain .badLoopVariable
      | _ => complain .badLoopVariable
    match ← token fuel Hints.laterCommand with
    | .keyword "in" =>
      let ws ← eachWords fuel []
      expectToken fuel Hints.laterCommand "do"
      return .each line name ws (← body fuel)
    | t =>
      match t with
      | .operator ";" => pure ()
      | _ => pushBack
      expectToken fuel Hints.laterCommand "do"
      return .each line name [[.parameter "@" .keep true]] (← body fuel)

/-- Reads the words of a loop after those in `before`, up to the end of their line or command. -/
def eachWords : Nat → List Word → Read (List Word)
  | 0, before => return before
  | fuel + 1, before => do
    match ← token fuel Hints.plain with
    | .word w _ => eachWords fuel (before ++ [w])
    | .lineEnd | .operator ";" => return before
    | _ => unexpected none

/-- Reads a selection by patterns after its first word. -/
def select : Nat → Nat → Read Statement
  | 0, _ => return .nothing
  | fuel + 1, line => do
    match ← token fuel Hints.plain with
    | .word subject _ =>
      expectToken fuel Hints.laterCommand "in"
      return .select line subject (← arms fuel [])
    | _ => unexpected (some "word")

/-- Reads the arms of a selection after those in `before`, up to its end. -/
def arms : Nat → List (List Word × Statement) → Read (List (List Word × Statement))
  | 0, before => return before
  | fuel + 1, before => do
    match ← token fuel ⟨true, true, false⟩ with
    | .keyword "esac" => return before
    | t =>
      let t ←
        match t with
        | .operator "(" => token fuel Hints.plain
        | t => pure t
      let ps ← patterns fuel t []
      let s ← commands fuel true true
      let before := before ++ [(ps, s.getD .nothing)]
      match ← token fuel ⟨true, true, false⟩ with
      | .keyword "esac" => return before
      | .operator ";;" => arms fuel before
      | _ => unexpected (some (Token.inQuotes ";;"))

/-- Reads the patterns of an arm, of which the token is the first, up to its parenthesis. -/
def patterns : Nat → Token → List Word → Read (List Word)
  | 0, _, before => return before
  | fuel + 1, t, before => do
    let w ←
      match t with
      | .word w _ => pure w
      | .keyword s => pure [.text s false]
      | _ => pure []
    match ← token fuel Hints.plain with
    | .operator "|" => patterns fuel (← token fuel Hints.plain) (before ++ [w])
    | .operator ")" => return before ++ [w]
    | _ => unexpected (some (Token.inQuotes ")"))

end

/-- Reads the commands on a line after those in `before`. There are none at the end of the script. -/
def lineFrom : Nat → Nat → Option Statement → Read (Option Statement)
  | 0, _, before => return before
  | fuel + 1, depth, before => do
    match ← token depth Hints.command with
    | .lineEnd => return some (before.getD .nothing)
    | .endOfFile =>
      pushBack
      return before
    | _ =>
      pushBack
      let line := (← get).line
      let s ← andOr depth
      match ← token depth Hints.plain with
      | .operator "&" => lineFrom fuel depth (andThen before (background line s))
      | .operator ";" => lineFrom fuel depth (andThen before s)
      | .lineEnd | .endOfFile =>
        pushBack
        lineFrom fuel depth (andThen before s)
      | _ => unexpected none

/-- Reads a text as if it stood in double quotes, but for the quotes in it. -/
def document (text : String) (aliases : List (String × String)) : Except Misread Word :=
  (parts (20 * text.length + 1000) .document [] true).run (Source.ofText text aliases)
    |>.map fun ((w, _), _) => w.reverse

/-- A command line that was read. -/
structure Line where
  /-- There is none at the end of the script. -/
  statement : Option Statement
  /-- Whether the script ends with it. -/
  isLast : Bool
  rest : Source

/-- Reads the next command line, which may go over several lines of the script. -/
def next (s : Source) : Except Misread Line :=
  let s := { s with isPushed := false, last := .lineEnd }
  let fuel := 20 * s.rest.length + 1000
  match (lineFrom fuel fuel none).run s with
  | .error e => .error e
  | .ok (statement, after) =>
    let isLast :=
      match after.isPushed, after.last with
      | true, .endOfFile => true
      | _, _ => false
    .ok ⟨statement, isLast, after⟩

end LintRoster.Shell.Reader
