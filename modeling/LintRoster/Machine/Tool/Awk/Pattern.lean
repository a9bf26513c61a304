import LintRoster.Regex.Matching
import LintRoster.Text.Digit

/-!
# Patterns of scripts for records

Patterns are regular expressions over bytes. Letters behind a backslash stand for characters as they
do in texts, also within sets, and all other characters behind one stand for themselves.
-/

namespace LintRoster.Machine.Tool.Awk.Pattern

/-- What is wrong with a pattern. -/
inductive Fault where
  | openGroup
  | noOperand
  | badSet
  | badInterval
  | repeatedStart
deriving DecidableEq, Repr

/-- A fault in words. -/
def Fault.message : Fault → String
  | openGroup => "missing ')'"
  | noOperand => "missing operand"
  | badSet => "bad class -- [], [^] or ["
  | badInterval => "bad interval expression"
  | repeatedStart => "syntax error ^* or ^+"

/-! ## Characters -/

/-- The character with a number that is written in a base, with at most so many digits, and what
follows. -/
def numbered? (base most : Nat) (cs : List Char) : Option (Char × List Char) :=
  let ds := (cs.take most).takeWhile fun c => (Text.digit? base c).isSome
  (Text.natural? base ds).map fun n => (Char.ofNat (n % 256), cs.drop ds.length)

/-- The character that a text behind a backslash stands for, and what follows, unless the backslash
means nothing there. -/
def escaped? (cs : List Char) : Option (Char × List Char) :=
  match cs with
  | 'a' :: cs => some ('\x07', cs)
  | 'b' :: cs => some ('\x08', cs)
  | 'f' :: cs => some ('\x0c', cs)
  | 'n' :: cs => some ('\n', cs)
  | 'r' :: cs => some ('\r', cs)
  | 't' :: cs => some ('\t', cs)
  | 'v' :: cs => some ('\x0b', cs)
  | '"' :: cs => some ('"', cs)
  | '\\' :: cs => some ('\\', cs)
  | 'x' :: cs => numbered? 16 2 cs
  | cs => numbered? 8 3 cs

/-- The character behind a backslash, and what follows. A backslash at the end stands for itself. -/
def behindBackslash (cs : List Char) : Char × List Char :=
  match escaped? cs, cs with
  | some found, _ => found
  | none, c :: cs => (c, cs)
  | none, [] => ('\\', [])

/-! ## Sets -/

/-- The kinds of bytes that have names. Only those of ASCII belong to any. -/
def kinds : List (String × List Regex.Member) :=
  let digits : Regex.Member := .range '0' '9'
  let small : Regex.Member := .range 'a' 'z'
  let capital : Regex.Member := .range 'A' 'Z'
  let signs : List Regex.Member :=
    [.range '!' '/', .range ':' '@', .range '[' '\x60', .range '\x7b' '~']
  [("alnum", [digits, small, capital]), ("alpha", [small, capital]), ("blank", [.one ' ', .one '\t']),
    ("cntrl", [.range '\x00' '\x1f', .one '\x7f']), ("digit", [digits]), ("graph", [.range '!' '~']),
    ("lower", [small]), ("print", [.range ' ' '~']), ("punct", signs),
    ("space", [.one ' ', .range '\t' '\r']), ("upper", [capital]),
    ("xdigit", [digits, .range 'a' 'f', .range 'A' 'F'])]

/-- The name between colons within brackets, and what follows. -/
def kindName? (cs : List Char) : Option (String × List Char) :=
  match cs with
  | '[' :: ':' :: rest =>
    let name := rest.takeWhile Char.isAlpha
    if (rest.drop name.length).take 2 == [':', ']'] then
      some (String.ofList name, rest.drop (name.length + 2))
    else none
  | _ => none

/-- A single character of a set, and what follows. -/
def element? (cs : List Char) : Option (Char × List Char) :=
  match cs with
  | [] => none
  | '\\' :: cs => some (behindBackslash cs)
  | c :: cs => some (c, cs)

/-- The members of a set up to its end, and what follows. -/
def members : Nat → Bool → List Regex.Member → List Char →
    Except Fault (List Regex.Member × List Char)
  | 0, _, _, _ => .error .badSet
  | fuel + 1, isFirst, before, cs =>
    if cs.head? == some ']' && !isFirst then .ok (before.reverse, cs.drop 1)
    else
      match kindName? cs with
      | some (name, rest) =>
        match kinds.lookup name with
        | none => .error .badSet
        | some ms => members fuel false (ms.reverse ++ before) rest
      | none =>
        match element? cs with
        | none => .error .badSet
        | some (low, rest) =>
          let isRange := rest.head? == some '-' && (rest.drop 1).head?.any (· != ']')
          match if isRange then element? (rest.drop 1) else none with
          | some (high, rest) =>
            let range : Regex.Member := if high < low then .range high low else .range low high
            members fuel false (range :: before) rest
          | none => members fuel false (.one low :: before) rest

/-- A set behind its bracket, and what follows. -/
def readSet (cs : List Char) : Except Fault (Regex × List Char) := do
  let negated := cs.head? == some '^'
  let cs := if negated then cs.drop 1 else cs
  let (ms, rest) ← members (cs.length + 1) true [] cs
  return (.among negated ms, rest)

/-! ## Expressions -/

/-- How often something is repeated, as a text says behind its brace, and what follows. -/
def interval? (cs : List Char) : Option (Nat × Option Nat × List Char) :=
  let digits (cs : List Char) : List Char := cs.takeWhile Char.isDigit
  let least := digits cs
  match cs.drop least.length with
  | '\x7d' :: rest => (Text.natural? 10 least).map fun n => (n, some n, rest)
  | ',' :: rest =>
    let most := digits rest
    match rest.drop most.length with
    | '\x7d' :: rest =>
      if least.isEmpty && most.isEmpty then none
      else some ((Text.natural? 10 least).getD 0, Text.natural? 10 most, rest)
    | _ => none
  | _ => none

/-- An expression with the repetitions behind it, and what follows. -/
def withRepetitions : Nat → Regex → List Char → Except Fault (Regex × List Char)
  | 0, e, cs => .ok (e, cs)
  | fuel + 1, e, cs =>
    let again (least : Nat) (most : Option Nat) (rest : List Char) : Except Fault (Regex × List Char) :=
      if e matches .place .start then .error .repeatedStart
      else withRepetitions fuel (.repeated e least most) rest
    match cs with
    | '*' :: rest => again 0 none rest
    | '+' :: rest => again 1 none rest
    | '?' :: rest => again 0 (some 1) rest
    | '\x7b' :: rest =>
      match interval? rest with
      | none => .ok (e, cs)
      | some (least, most, rest) =>
        if most.any (· < least) then .error .badInterval else again least most rest
    | cs => .ok (e, cs)

mutual

/-- The alternatives at the front of a text within a number of groups, and what follows. -/
def alternatives : Nat → Nat → List Char → Except Fault (Regex × List Char)
  | 0, _, _ => .error .noOperand
  | fuel + 1, depth, cs => do
    let (first, rest) ← branch fuel depth none cs
    match rest with
    | '|' :: rest =>
      let (second, rest) ← alternatives fuel depth rest
      return (.either first second, rest)
    | rest => return (first, rest)

/-- One alternative at the front of a text, after an expression, and what follows. -/
def branch : Nat → Nat → Option Regex → List Char → Except Fault (Regex × List Char)
  | 0, _, _, _ => .error .noOperand
  | fuel + 1, depth, before?, cs => do
    let isOver :=
      match cs with
      | [] | '|' :: _ => true
      | ')' :: _ => 0 < depth
      | _ => false
    if isOver then
      match before? with
      | some e => return (e, cs)
      | none => throw (if cs.isEmpty && 0 < depth then .openGroup else .noOperand)
    else
      let (e, rest) ← atom fuel depth cs
      let (e, rest) ← withRepetitions (rest.length + 1) e rest
      branch fuel depth (some ((before?.map fun before => .both before e).getD e)) rest

/-- A single expression at the front of a text, and what follows. -/
def atom : Nat → Nat → List Char → Except Fault (Regex × List Char)
  | 0, _, _ => .error .noOperand
  | fuel + 1, depth, cs =>
    match cs with
    | [] | '*' :: _ | '+' :: _ | '?' :: _ => .error .noOperand
    | '(' :: rest => do
      let (e, rest) ← alternatives fuel (depth + 1) rest
      match rest with
      | ')' :: rest => return (e, rest)
      | _ => throw .openGroup
    | '[' :: rest => readSet rest
    | '.' :: rest => .ok (.among true [], rest)
    | '^' :: rest => .ok (.place .start, rest)
    | '$' :: rest => .ok (.place .stop, rest)
    | '\\' :: rest =>
      let (c, rest) := behindBackslash rest
      .ok (.char c, rest)
    | c :: rest => .ok (.char c, rest)

end

/-- The pattern that a text is. An empty one is everywhere. -/
def read (cs : List Char) : Except Fault Regex :=
  if cs.isEmpty then .ok .empty
  else (alternatives (4 * cs.length + 10) 0 cs).map Prod.fst

/-- The matcher for a pattern. -/
def matcher (cs : List Char) : Except Fault Regex.Matcher :=
  (read cs).map fun e => e.matcher false

end LintRoster.Machine.Tool.Awk.Pattern
