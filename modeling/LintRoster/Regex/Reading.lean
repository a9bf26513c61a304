import LintRoster.Regex

/-!
# Reading regular expressions

Regular expressions are written in a basic form, in which operators other than dots, stars and
brackets stand behind a backslash, or in an extended one, in which they stand for themselves.
-/

namespace LintRoster.Regex

/-- What is wrong with a written expression. -/
inductive Fault where
  | badPattern
  | openBracket
  | openGroup
  | closedGroup
  | openBraces
  | badBraces
  | tooBig
  | backslash
  | badRange
  | badKind
  | badReference
  | nothingRepeated
deriving DecidableEq, Repr

/-- A fault in words. -/
def Fault.message : Fault → String
  | badPattern => "Invalid regular expression"
  | openBracket => "Unmatched [, [^, [:, [., or [="
  | openGroup => "Unmatched ( or \\("
  | closedGroup => "Unmatched ) or \\)"
  | openBraces => "Unmatched \\\x7b"
  | badBraces => "Invalid content of \\\x7b\\\x7d"
  | tooBig => "Regular expression too big"
  | backslash => "Trailing backslash"
  | badRange => "Invalid range end"
  | badKind => "Invalid character class name"
  | badReference => "Invalid back reference"
  | nothingRepeated => "Invalid preceding regular expression"

/-- How expressions are written. -/
structure Form where
  extended : Bool
  /-- Whether an operator with nothing in front of it is a fault. -/
  strict : Bool

/-- What is left to be read, and the groups so far. -/
structure Reading where
  rest : List Char
  groups : Nat
  /-- The groups that have ended. -/
  closed : List Nat
  /-- The operators with nothing in front of them, last first. -/
  idle : List String

/-- A step in reading an expression. -/
abbrev Read :=
  StateT Reading (Except Fault)

/-- Takes characters away. -/
def drop (n : Nat) : Read Unit :=
  modify fun r => { r with rest := r.rest.drop n }

/-! ## Sets -/

/-- A name between brackets with a sign inside them, and what follows. -/
def bracketed? (sign : Char) (cs : List Char) : Option (String × List Char) :=
  match cs with
  | '[' :: s :: rest =>
    if s != sign then none
    else
      let name := rest.takeWhile (· != sign)
      if (rest.drop name.length).take 2 == [sign, ']'] then
        some (String.ofList name, rest.drop (name.length + 2))
      else none
  | _ => none

/-- A single character of a set, and what follows it. -/
def element? (cs : List Char) : Option (Char × List Char) :=
  match bracketed? '.' cs, bracketed? '=' cs, cs with
  | some (name, rest), _, _ | none, some (name, rest), _ => name.toList.head?.map fun c => (c, rest)
  | none, none, c :: rest => some (c, rest)
  | none, none, [] => none

/-- The members of a set up to its end, with what follows. Those before come last first. -/
def members : Nat → Bool → List Member → List Char → Except Fault (List Member × List Char)
  | 0, _, _, _ => .error .openBracket
  | _, _, _, [] => .error .openBracket
  | fuel + 1, isFirst, before, c :: cs =>
    if c == ']' && !isFirst then .ok (before.reverse, cs)
    else
      match bracketed? ':' (c :: cs) with
      | some (name, rest) =>
        if (kinds.lookup name).isNone then .error .badKind
        else members fuel false (.kind name :: before) rest
      | none =>
        if (c :: cs).take 2 == ['[', ':'] then .error .openBracket
        else
          match element? (c :: cs) with
          | none => .error .openBracket
          | some (low, '-' :: d :: rest) =>
            if d == ']' then members fuel false (.one low :: before) ('-' :: d :: rest)
            else
              match element? (d :: rest) with
              | none => .error .openBracket
              | some (high, rest) =>
                if high < low then .error .badRange
                else members fuel false (.range low high :: before) rest
          | some (low, rest) => members fuel false (.one low :: before) rest

/-- Reads a set after its bracket. -/
def readSet : Read Regex := do
  let r ← get
  let negated := r.rest.head? == some '^'
  let cs := if negated then r.rest.drop 1 else r.rest
  if cs.isEmpty then throw .badPattern
  let (ms, rest) ← members (cs.length + 1) true [] cs
  set { r with rest }
  return .among negated ms

/-! ## Repetitions -/

/-- A number of repetitions and what follows it. -/
def braces? (form : Form) (cs : List Char) : Option (Nat × Option Nat × List Char) :=
  let number (cs : List Char) : Option Nat × List Char :=
    let ds := cs.takeWhile Char.isDigit
    (if ds.isEmpty then none else (String.ofList ds).toNat?, cs.drop ds.length)
  let (least, rest) := number cs
  let (most, rest) :=
    match rest with
    | ',' :: rest => number rest
    | rest => (least, rest)
  let comma := (cs.drop (cs.takeWhile Char.isDigit).length).head? == some ','
  if least.isNone && !comma then none
  else
    match form.extended, rest with
    | true, '\x7d' :: rest | false, '\\' :: '\x7d' :: rest => some (least.getD 0, most, rest)
    | _, _ => none

/-- The greatest number of repetitions. -/
def repetitionLimit : Nat :=
  32767

/-- Reads a number of repetitions after its brace. There is none if the brace stands for itself. -/
def readBraces (form : Form) : Read (Option (Nat × Option Nat)) := do
  let r ← get
  match braces? form r.rest with
  | some (least, most, rest) =>
    if most.any (· < least) then throw .badBraces
    if repetitionLimit < max least (most.getD 0) then throw .tooBig
    set { r with rest }
    return some (least, most)
  | none =>
    if form.extended && !form.strict then return none
    else if r.rest.any (· == '\x7d') then throw .badBraces
    else throw .openBraces

/-- Whether a repetition stands in front of a text that must not be repeated itself. -/
def repeatsTwice (form : Form) (e : Regex) (cs : List Char) : Bool :=
  let isRepeated := e matches .repeated _ _ _
  let repeats := cs.head? == some '*' || cs.take 2 == ['\\', '\x7b']
  !form.extended && form.strict && isRepeated && repeats

/-- Reads repetitions behind an expression. -/
def readRepeats (form : Form) : Nat → Regex → Read Regex
  | 0, e => return e
  | fuel + 1, e => do
    if repeatsTwice form e (← get).rest then throw .nothingRepeated
    let star (least : Nat) (most : Option Nat) (n : Nat) : Read Regex := do
      drop n
      readRepeats form fuel (.repeated e least most)
    match form.extended, (← get).rest with
    | _, '*' :: _ => star 0 none 1
    | true, '+' :: _ => star 1 none 1
    | true, '?' :: _ => star 0 (some 1) 1
    | false, '\\' :: '+' :: _ => star 1 none 2
    | false, '\\' :: '?' :: _ => star 0 (some 1) 2
    | true, '\x7b' :: _ =>
      let before ← get
      drop 1
      match ← readBraces form with
      | some (least, most) => readRepeats form fuel (.repeated e least most)
      | none =>
        set before
        return e
    | false, '\\' :: '\x7b' :: _ =>
      drop 2
      match ← readBraces form with
      | some (least, most) => readRepeats form fuel (.repeated e least most)
      | none => return e
    | _, _ => return e

/-! ## Expressions -/

/-- What a letter behind a backslash stands for, apart from groups and repetitions. -/
def readEscape (c : Char) : Read Regex := do
  match c with
  | 'w' => return .among false [.kind "word"]
  | 'W' => return .among true [.kind "word"]
  | 's' => return .among false [.kind "space"]
  | 'S' => return .among true [.kind "space"]
  | 'b' => return .place .wordEdge
  | 'B' => return .place .noWordEdge
  | '<' => return .place .wordStart
  | '>' => return .place .wordStop
  | '\x60' => return .place .textStart
  | '\'' => return .place .textStop
  | c =>
    if '1' ≤ c && c ≤ '9' then
      let n := c.toNat - '0'.toNat
      if (← get).closed.contains n then return .again n else throw .badReference
    else return .char c

/-- Whether an alternative ends in front of a text, in a number of groups. -/
def endsBranch (form : Form) (depth : Nat) (cs : List Char) : Bool :=
  match form.extended, cs with
  | _, [] => true
  | true, '|' :: _ => true
  | true, ')' :: _ => depth > 0
  | false, '\\' :: '|' :: _ | false, '\\' :: ')' :: _ => true
  | _, _ => false

/-- An operator that repeats, at the beginning of a text, and what follows it. -/
def idleOperator? (form : Form) (cs : List Char) : Option (String × List Char) :=
  match cs with
  | '\x7b' :: cs => (braces? form cs).map fun (_, _, rest) => ("\x7b...\x7d", rest)
  | c :: cs => if ['*', '+', '?'].contains c then some (String.singleton c, cs) else none
  | [] => none

mutual

/-- Reads alternatives. -/
def alternatives (form : Form) : Nat → Nat → Read Regex
  | 0, _ => return .empty
  | fuel + 1, depth => do
    let first ← branch form fuel depth true .empty
    match form.extended, (← get).rest with
    | true, '|' :: _ =>
      drop 1
      return .either first (← alternatives form fuel depth)
    | false, '\\' :: '|' :: _ =>
      drop 2
      return .either first (← alternatives form fuel depth)
    | _, _ => return first

/-- Reads an alternative after the expression in `before`. -/
def branch (form : Form) : Nat → Nat → Bool → Regex → Read Regex
  | 0, _, _, before => return before
  | fuel + 1, depth, isFirst, before => do
    let cs := (← get).rest
    if endsBranch form depth cs then return before
    else
      match form.extended, isFirst, cs with
      | true, true, cs =>
        match idleOperator? form cs with
        | some (name, rest) =>
          if form.strict then throw .nothingRepeated
          modify fun r => { r with rest, idle := name :: r.idle }
          branch form fuel depth true before
        | none => further form fuel depth isFirst before
      | false, true, '\\' :: '\x7b' :: _ =>
        if form.strict then throw .nothingRepeated else further form fuel depth isFirst before
      | _, _, _ => further form fuel depth isFirst before

/-- Reads one more expression with its repetitions, and what follows it. -/
def further (form : Form) : Nat → Nat → Bool → Regex → Read Regex
  | 0, _, _, before => return before
  | fuel + 1, depth, isFirst, before => do
    let e ← atom form fuel depth isFirst
    let isAnchor := (form.extended || isFirst) && e == .place .start
    let e ← if isAnchor then pure e else readRepeats form ((← get).rest.length + 1) e
    let joined := if before == .empty then e else .both before e
    branch form fuel depth isAnchor joined

/-- Reads a single expression. -/
def atom (form : Form) : Nat → Nat → Bool → Read Regex
  | 0, _, _ => return .empty
  | fuel + 1, depth, isFirst => do
    let cs := (← get).rest
    let group (n : Nat) : Read Regex := do
      drop n
      let number := (← get).groups + 1
      modify fun r => { r with groups := number }
      let body ← alternatives form fuel (depth + 1)
      let closes :=
        match form.extended, (← get).rest with
        | true, ')' :: _ => some 1
        | false, '\\' :: ')' :: _ => some 2
        | _, _ => none
      match closes with
      | some n =>
        drop n
        modify fun r => { r with closed := number :: r.closed }
        return .group number body
      | none => throw .openGroup
    match form.extended, cs with
    | _, [] => return .empty
    | true, '(' :: _ => group 1
    | false, '\\' :: '(' :: _ => group 2
    | true, ')' :: _ =>
      if form.strict then throw .closedGroup
      drop 1
      return .char ')'
    | _, '.' :: _ =>
      drop 1
      return .any
    | _, '[' :: _ =>
      drop 1
      readSet
    | extended, '^' :: _ =>
      drop 1
      return if extended || isFirst then .place .start else .char '^'
    | extended, '$' :: rest =>
      drop 1
      let isLast := extended || endsBranch form depth rest
      return if isLast then .place .stop else .char '$'
    | _, ['\\'] => throw .backslash
    | _, '\\' :: c :: _ =>
      drop 2
      readEscape c
    | _, c :: _ =>
      drop 1
      return .char c

end

/-- Reads a whole expression. Also gives the operators with nothing in front of them. -/
def read (form : Form) (cs : List Char) : Except Fault (Regex × List String) := do
  let (e, r) ← (alternatives form (4 * cs.length + 10) 0).run ⟨cs, 0, [], []⟩
  if r.rest.isEmpty then return (e, r.idle.reverse) else throw .closedGroup

end LintRoster.Regex
