import LintRoster.Decimal.Float
import LintRoster.Decimal.Scan
import LintRoster.Machine.Tool.Awk.Pattern

/-!
# Tokens of scripts for records

`Token.scan` divides the text of a script into tokens. A slash begins a pattern unless what is in
front of it can be divided, and line ends do not count where something has to follow.
-/

namespace LintRoster.Machine.Tool.Awk

/-- What a token is. -/
inductive Word where
  | number (x : Float)
  | text (s : String)
  | pattern (cs : List Char)
  /-- A name, and whether a parenthesis follows it at once. -/
  | name (s : String) (isCalled : Bool)
  | keyword (s : String)
  | sign (s : String)
  | lineEnd
  | over
  /-- What cannot be a token. -/
  | fault (message : String)

/-- A token, how it is written, and the number of its line. -/
structure Token where
  word : Word
  written : String
  line : Nat

namespace Token

/-- The words that are no names. -/
def keywords : List String :=
  ["BEGIN", "END", "function", "if", "else", "while", "for", "do", "break", "continue", "next",
    "nextfile", "exit", "return", "delete", "getline", "print", "printf", "in", "length", "substr",
    "index", "split", "sub", "gsub", "match", "sprintf", "tolower", "toupper", "int", "sqrt", "exp",
    "log", "sin", "cos", "atan2", "rand", "srand", "system", "close", "fflush", "systime"]

/-- The signs, longer ones first. -/
def signs : List String :=
  ["+=", "-=", "*=", "/=", "%=", "^=", "++", "--", "==", "!=", "<=", ">=", "&&", "||", ">>", "!~",
    "+", "-", "*", "/", "%", "^", "!", "<", ">", "=", "?", ":", ",", ";", "~", "$", "(", ")", "[",
    "]", "|", "\x7b", "\x7d"]

/-- The sign at the front of a text. -/
def sign? (cs : List Char) : Option String :=
  signs.find? fun s => s.toList.isPrefixOf cs

/-- Whether what stands behind a token can be divided by a slash. -/
def isDivided : Option Word → Bool
  | some (.number _) | some (.text _) | some (.pattern _) | some (.name _ _) => true
  | some (.keyword s) => s == "getline"
  | some (.sign s) => [")", "]", "++", "--"].contains s
  | _ => false

/-- Whether line ends behind a token do not count. -/
def bindsNext : Option Word → Bool
  | none | some .lineEnd => true
  | some (.keyword s) => s == "else" || s == "do"
  | some (.sign s) => ["\x7b", "\x7d", ",", ";", "&&", "||"].contains s
  | _ => false

/-- The characters of a text up to its quote, last first, and what follows. -/
def textFrom : Nat → List Char → List Char → Option (List Char × List Char)
  | 0, _, _ => none
  | fuel + 1, done, cs =>
    match cs with
    | '"' :: rest => some (done.reverse, rest)
    | '\\' :: '\n' :: rest => textFrom fuel done rest
    | '\\' :: rest =>
      match Pattern.escaped? rest with
      | some (c, rest) => textFrom fuel (c :: done) rest
      | none => textFrom fuel ('\\' :: done) rest
    | '\n' :: _ | [] => none
    | c :: rest => textFrom fuel (c :: done) rest

/-- The characters of a pattern up to its slash, last first, and what follows. A slash within a set
does not count. -/
def patternFrom : Nat → Bool → List Char → List Char → Option (List Char × List Char)
  | 0, _, _, _ => none
  | fuel + 1, inSet, done, cs =>
    match cs with
    | '\n' :: _ | [] => none
    | '\\' :: '/' :: rest => patternFrom fuel inSet ('/' :: done) rest
    | '\\' :: c :: rest => patternFrom fuel inSet (c :: '\\' :: done) rest
    | '/' :: rest => if inSet then patternFrom fuel inSet ('/' :: done) rest else some (done.reverse, rest)
    | '[' :: rest =>
      if inSet then
        match Pattern.kindName? cs with
        | some (_, after) =>
          patternFrom fuel true ((cs.take (cs.length - after.length)).reverse ++ done) after
        | none => patternFrom fuel true ('[' :: done) rest
      else
        let front := if rest.head? == some '^' then ['^'] else []
        let rest := rest.drop front.length
        let closes := if rest.head? == some ']' then [']'] else []
        patternFrom fuel true (closes ++ front ++ '[' :: done) (rest.drop closes.length)
    | ']' :: rest => patternFrom fuel false (']' :: done) rest
    | c :: rest => patternFrom fuel inSet (c :: done) rest

/-- What a text without an end is complained about with. -/
def runaway (what : String) (sign : Char) (cs : List Char) : String :=
  let shown := (withoutEscape (cs.takeWhile (· != '\n'))).take 10
  "runaway " ++ what ++ " " ++ String.ofList (sign :: shown) ++ " ..."
where
  /-- A text whose signs have no backslashes in front of them. -/
  withoutEscape : List Char → List Char
    | '\\' :: c :: cs => if c == sign then c :: withoutEscape cs else '\\' :: c :: withoutEscape cs
    | c :: cs => c :: withoutEscape cs
    | [] => []

/-- A number at the front of a text, and what follows. -/
def number? (cs : List Char) : Option (Float × List Char) :=
  let begins :=
    match cs with
    | '.' :: c :: _ | c :: _ => c.isDigit
    | [] => false
  if begins then
    (ScannedNumber.decimal? false cs).map fun n => (n.value.toFloat, n.rest)
  else none

/-- The word at the front of a text that is neither blank nor a sign, and what follows. -/
def wordOf (before : Option Word) (cs : List Char) : Word × List Char :=
  let isLetter (c : Char) : Bool := c.isAlpha || c == '_'
  match number? cs, cs with
  | some (x, rest), _ => (.number x, rest)
  | none, '"' :: rest =>
    match textFrom (cs.length + 1) [] rest with
    | some (text, rest) => (.text (String.ofList text), rest)
    | none => (.fault (runaway "string constant" '"' rest), [])
  | none, c :: rest =>
    if isLetter c then
      let name := String.ofList ((c :: rest).takeWhile fun c => isLetter c || c.isDigit)
      let rest := (c :: rest).drop name.length
      if keywords.contains name then (.keyword name, rest) else (.name name (rest.head? == some '('), rest)
    else if c == '/' && !isDivided before then
      match patternFrom (cs.length + 1) false [] rest with
      | some (pattern, rest) => (.pattern pattern, rest)
      | none => (.fault (runaway "regular expression" '/' rest), [])
    else
      match sign? (c :: rest) with
      | some s => (.sign s, (c :: rest).drop s.length)
      | none => (.fault ("unexpected character '" ++ String.singleton c ++ "'"), [])
  | none, [] => (.over, [])

/-- How far one is in a script: the last word, the number of the line, and the numbers of parentheses
and braces that are open. -/
structure Position where
  before : Option Word
  line : Nat
  parentheses : Nat
  braces : Nat

/-- The position behind a word, or what is wrong with the word there. -/
def Position.after (p : Position) (w : Word) : Except String Position :=
  let p := { p with before := some w }
  match w with
  | .lineEnd => .ok { p with line := p.line + 1 }
  | .sign "(" => .ok { p with parentheses := p.parentheses + 1 }
  | .sign ")" =>
    if p.parentheses == 0 then .error "extra ')'" else .ok { p with parentheses := p.parentheses - 1 }
  | .sign "\x7b" => .ok { p with braces := p.braces + 1 }
  | .sign "\x7d" =>
    if p.braces == 0 then .error "extra '\x7d'" else .ok { p with braces := p.braces - 1 }
  | _ => .ok p

/-- Tokens from a position on, where those in front come last first. -/
def scanFrom : Nat → Position → List Token → List Char → List Token
  | 0, _, done, _ => done.reverse
  | fuel + 1, p, done, cs =>
    match cs with
    | [] =>
      let ended := bindsNext p.before
      let ending := if ended then [] else [Token.mk .lineEnd "end of line" p.line]
      (Token.mk .over "end of file" (p.line + 1) :: ending ++ done).reverse
    | '\\' :: '\n' :: rest | '\\' :: '\r' :: '\n' :: rest =>
      scanFrom fuel { p with line := p.line + 1 } done rest
    | ' ' :: rest | '\t' :: rest | '\r' :: rest => scanFrom fuel p done rest
    | '#' :: rest => scanFrom fuel p done (rest.dropWhile (· != '\n'))
    | '\n' :: rest =>
      if bindsNext p.before then scanFrom fuel { p with line := p.line + 1 } done rest
      else
        let token : Token := ⟨.lineEnd, "end of line", p.line⟩
        scanFrom fuel { p with line := p.line + 1, before := some .lineEnd } (token :: done) rest
    | ';' :: rest =>
      let isBehindRule := p.braces == 0 && p.before matches some (.sign "\x7d")
      let token : Token := ⟨.sign ";", ";", p.line⟩
      scanFrom fuel { p with before := some (.sign ";") } (if isBehindRule then done else token :: done) rest
    | cs =>
      let (w, rest) := wordOf p.before cs
      let written := String.ofList (cs.take (cs.length - rest.length))
      match w, p.after w with
      | .fault _, _ => (Token.mk w written p.line :: done).reverse
      | _, .error message => (Token.mk (.fault message) written p.line :: done).reverse
      | w, .ok after => scanFrom fuel after (⟨w, written, p.line⟩ :: done) rest

/-- The tokens of a script. -/
def scan (cs : List Char) : List Token :=
  scanFrom (2 * cs.length + 2) ⟨none, 1, 0, 0⟩ [] cs

end Token

end LintRoster.Machine.Tool.Awk
