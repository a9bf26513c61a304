import LintRoster.Machine.Tool.Awk.Script
import LintRoster.Machine.Tool.Awk.Token

/-!
# Reading scripts for records

`Awk.readScript` reads the tokens of a script. What a name stands for is found out from how it is used
first, and for parameters of functions from what they are given.
-/

namespace LintRoster.Machine.Tool.Awk

/-- What is wrong with a script, and the number of its line. -/
structure Fault where
  line : Nat
  message : String

/-- What a name stands for. -/
inductive Kind where
  | value
  | table
  | function
deriving DecidableEq, Repr

/-- A function that is being read: its name and its parameters. -/
structure Frame where
  name : String
  parameters : List String

/-- A call of a function, and the function that it stands in, if any. -/
structure Use where
  caller : String
  callee : String
  arguments : List Expr

/-- What was read, and what is left. -/
structure Reading where
  rest : List Token
  /-- How many parentheses and braces are open. -/
  parentheses : Nat
  braces : Nat
  kinds : List (String × Kind)
  frame : Option Frame
  /-- The parameters that are tables, by their functions and places. -/
  tables : List (String × Nat)
  uses : List Use
  /-- How many loops are around a statement. -/
  loops : Nat
  /-- Whether a record is there to go on from. -/
  hasRecord : Bool
  /-- Whether a greater sign compares. -/
  compares : Bool

/-- A step in reading a script. -/
abbrev Read :=
  StateT Reading (Except Fault)

namespace Read

/-! ## Tokens -/

/-- The end of a script. -/
def lastToken : Token :=
  ⟨.over, "end of file", 1⟩

/-- The next token, which stays. -/
def token : Read Token := do
  return (← get).rest.headD lastToken

/-- The next word, which stays. -/
def peek : Read Word := do
  return (← token).word

/-- Some of the next words, which stay. -/
def ahead (n : Nat) : Read (List Word) := do
  return ((← get).rest.take n).map Token.word

/-- Fails at the present line. -/
def bad {α : Type} (message : String) : Read α := do
  throw ⟨(← token).line, message⟩

/-- Fails at the next token, which cannot stand where it does. -/
def misplaced {α : Type} : Read α := do
  let r ← get
  let t ← token
  let wrong := "syntax error at or near " ++ t.written
  match t.word with
  | .fault message => bad message
  | .over => if 0 < r.braces then bad "missing \x7d near end of file" else bad wrong
  | .lineEnd | .sign ";" | .sign "\x7d" =>
    if 0 < r.parentheses then bad ("missing ) near " ++ t.written) else bad wrong
  | _ => bad wrong

/-- Takes the next token. -/
def advance : Read Unit :=
  modify fun r =>
    let rest := r.rest.drop 1
    match (r.rest.headD lastToken).word with
    | .sign "(" => { r with rest, parentheses := r.parentheses + 1 }
    | .sign ")" => { r with rest, parentheses := r.parentheses - 1 }
    | .sign "\x7b" => { r with rest, braces := r.braces + 1 }
    | .sign "\x7d" => { r with rest, braces := r.braces - 1 }
    | _ => { r with rest }

/-- Takes a sign, if it is the next token. -/
def accept (s : String) : Read Bool := do
  match ← peek with
  | .sign t =>
    if s == t then
      advance
      return true
    else return false
  | _ => return false

/-- Takes a sign. -/
def expect (s : String) : Read Unit := do
  if !(← accept s) then misplaced

/-- Takes a keyword, if it is the next token. -/
def acceptKeyword (s : String) : Read Bool := do
  match ← peek with
  | .keyword t =>
    if s == t then
      advance
      return true
    else return false
  | _ => return false

/-- Takes line ends. -/
def skipLineEnds : Nat → Read Unit
  | 0 => return
  | fuel + 1 => do
    match ← peek with
    | .lineEnd =>
      advance
      skipLineEnds fuel
    | _ => return

/-- Does something where a greater sign compares, or where it does not. -/
def comparing {α : Type} (compares : Bool) (read : Read α) : Read α := do
  let before := (← get).compares
  modify fun r => { r with compares }
  let a ← read
  modify fun r => { r with compares := before }
  return a

/-! ## Names -/

/-- The parameter of the present function with a name. -/
def parameter? (name : String) : Read (Option (String × Nat)) := do
  return (← get).frame.bind fun f => (f.parameters.findIdx? (· == name)).map fun n => (f.name, n)

/-- What a name stands for, as far as that is known. -/
def kind? (name : String) : Read (Option Kind) := do
  match ← parameter? name with
  | some own => return if (← get).tables.contains own then some .table else none
  | none => return (← get).kinds.lookup name

/-- The variable with a name, of which the kind is not known by this. -/
def variableOf (name : String) : Read Variable := do
  match ← parameter? name with
  | some (_, n) => return .own n
  | none => return if name == "NF" then .fieldCount else .shared name

/-- The variable with a name, which has to be of a kind. -/
def variableAs (kind : Kind) (name : String) : Read Variable := do
  match ← kind? name with
  | none =>
    match ← parameter? name with
    | some own => if kind == .table then modify fun r => { r with tables := own :: r.tables }
    | none => modify fun r => { r with kinds := (name, kind) :: r.kinds }
  | some known =>
    if known != kind then
      let word := if known == .table then "array " else "variable "
      bad ("illegal reference to " ++ word ++ name)
  variableOf name

/-- Takes the name of a table. -/
def tableName : Read Variable := do
  match ← peek with
  | .name s _ =>
    advance
    variableAs .table s
  | _ => misplaced

/-- The matcher for a pattern. -/
def patternOf (cs : List Char) : Read Regex.Matcher := do
  match Pattern.matcher cs with
  | .ok m => return m
  | .error fault =>
    bad ("regular expression compile failed (" ++ fault.message ++ ")\n" ++ String.ofList cs)

/-- An expression that stands for a pattern. If it is a text, the pattern is read at once. -/
def asPattern (e : Expr) : Read Expr := do
  match e with
  | .text s => return .pattern (← patternOf s.toList)
  | e => return e

/-! ## Expressions -/

/-- Whether an expression can be given a value. -/
def isTarget : Expr → Bool
  | .variable _ | .field _ | .element _ _ => true
  | _ => false

/-- Whether a token begins an expression. -/
def begins : Word → Bool
  | .number _ | .text _ | .pattern _ | .name _ _ => true
  | .sign s => ["$", "!", "-", "+", "(", "++", "--"].contains s
  | .keyword s =>
    ["getline", "length", "substr", "index", "split", "sub", "gsub", "match", "sprintf", "tolower",
      "toupper", "int", "sqrt", "exp", "log", "sin", "cos", "atan2", "rand", "srand", "system",
      "close", "fflush", "systime"].contains s
  | _ => false

/-- Whether a token goes on with a text that an expression begins. -/
def joins : Word → Bool
  | .sign "-" | .sign "+" => false
  | w => begins w

/-- The calculation that an assignment sign does, if it does any. -/
def assigned? : Word → Option (Option Operation)
  | .sign "=" => some none
  | .sign "+=" => some (some .add)
  | .sign "-=" => some (some .subtract)
  | .sign "*=" => some (some .multiply)
  | .sign "/=" => some (some .divide)
  | .sign "%=" => some (some .remainder)
  | .sign "^=" => some (some .power)
  | _ => none

/-- The comparison of a sign. -/
def comparison? (compares : Bool) : Word → Option Comparison
  | .sign "<" => some .less
  | .sign "<=" => some .lessEqual
  | .sign "==" => some .equal
  | .sign "!=" => some .unequal
  | .sign ">" => if compares then some .greater else none
  | .sign ">=" => some .greaterEqual
  | _ => none

/-- The functions that take between a least and a greatest number of arguments. -/
def builtins : List (String × Builtin × Nat × Nat) :=
  [("substr", .substr, 2, 3), ("index", .index, 2, 2),
    ("sub", .replaceFirst, 2, 3), ("gsub", .replaceAll, 2, 3), ("match", .locate, 2, 2),
    ("sprintf", .format, 1, 1000), ("tolower", .small, 1, 1), ("toupper", .capital, 1, 1),
    ("int", .truncate, 1, 1), ("sqrt", .squareRoot, 1, 1), ("exp", .exponential, 1, 1),
    ("log", .logarithm, 1, 1), ("sin", .sine, 1, 1), ("cos", .cosine, 1, 1),
    ("atan2", .arcTangent, 2, 2), ("rand", .random, 0, 0), ("srand", .seed, 0, 1),
    ("system", .system, 1, 1), ("close", .close, 1, 1), ("fflush", .flush, 0, 1),
    ("systime", .time, 0, 0)]

mutual

/-- An expression. -/
def expr : Nat → Read Expr
  | 0 => misplaced
  | fuel + 1 => do
    let e ← binary fuel 0
    if ← accept "?" then
      let first ← expr fuel
      expect ":"
      return .choose e first (← expr fuel)
    else return e

/-- An expression with signs between its parts that bind at least as tightly as a level says. -/
def binary : Nat → Nat → Read Expr
  | 0, _ => misplaced
  | fuel + 1, level => do
    if 5 ≤ level then
      let t ← peek
      let e ← sum fuel
      match assigned? (← peek) with
      | some o? =>
        if !isTarget e || t matches .sign "(" then misplaced
        advance
        let value ← expr fuel
        return match o? with
          | none => .assign e value
          | some o => .update o e value
      | none => joined fuel e
    else
      let e ← binary fuel (level + 1)
      further fuel level e

/-- What follows an expression at a level. -/
def further : Nat → Nat → Expr → Read Expr
  | 0, _, e => return e
  | fuel + 1, level, e => do
    let compares := (← get).compares
    let again (make : Expr → Expr) : Read Expr := do
      advance
      let other ← binary fuel (level + 1)
      further fuel level (make other)
    let sought (make : Expr → Expr) : Read Expr := do
      advance
      let other ← binary fuel (level + 1)
      further fuel level (make (← asPattern other))
    match level, ← peek with
    | 0, .sign "||" => again (.either e)
    | 1, .sign "&&" => again (.both e)
    | 2, .keyword "in" =>
      advance
      let table ← tableName
      further fuel level (.contains [e] table)
    | 3, .sign "~" => sought (.holds false e)
    | 3, .sign "!~" => sought (.holds true e)
    | 4, w =>
      match comparison? compares w with
      | some c => again (.compare c e)
      | none => return e
    | _, _ => return e

/-- Texts that are joined, after an expression. -/
def joined : Nat → Expr → Read Expr
  | 0, e => return e
  | fuel + 1, e => do
    if joins (← peek) then
      let other ← sum fuel
      joined fuel (.joined e other)
    else return e

/-- A sum. -/
def sum : Nat → Read Expr
  | 0 => misplaced
  | fuel + 1 => do
    let e ← product fuel
    furtherSum fuel e

/-- What follows a part of a sum. -/
def furtherSum : Nat → Expr → Read Expr
  | 0, e => return e
  | fuel + 1, e => do
    let again (o : Operation) : Read Expr := do
      advance
      let other ← product fuel
      furtherSum fuel (.calculate o e other)
    match ← peek with
    | .sign "+" => again .add
    | .sign "-" => again .subtract
    | _ => return e

/-- A product. -/
def product : Nat → Read Expr
  | 0 => misplaced
  | fuel + 1 => do
    let e ← signed fuel
    furtherProduct fuel e

/-- What follows a part of a product. -/
def furtherProduct : Nat → Expr → Read Expr
  | 0, e => return e
  | fuel + 1, e => do
    let again (o : Operation) : Read Expr := do
      advance
      let other ← signed fuel
      furtherProduct fuel (.calculate o e other)
    match ← peek with
    | .sign "*" => again .multiply
    | .sign "/" => again .divide
    | .sign "%" => again .remainder
    | _ => return e

/-- An expression with a sign in front of it, possibly. -/
def signed : Nat → Read Expr
  | 0 => misplaced
  | fuel + 1 => do
    if ← accept "!" then return .opposite (← signed fuel)
    else if ← accept "-" then return .negative (← signed fuel)
    else if ← accept "+" then return .positive (← signed fuel)
    else
      let e ← power fuel
      piped fuel e

/-- What is read from a command. -/
def piped : Nat → Expr → Read Expr
  | 0, e => return e
  | fuel + 1, e => do
    match ← ahead 2 with
    | .sign "|" :: .keyword "getline" :: _ =>
      advance
      advance
      let target ← optionalTarget fuel
      piped fuel (.getline (.command e) target)
    | _ => return e

/-- A power. -/
def power : Nat → Read Expr
  | 0 => misplaced
  | fuel + 1 => do
    let e ← stepped fuel
    if ← accept "^" then
      match ← peek with
      | .sign "-" =>
        advance
        return .calculate .power e (.negative (← power fuel))
      | .sign "+" =>
        advance
        return .calculate .power e (.positive (← power fuel))
      | .sign "!" =>
        advance
        return .calculate .power e (.opposite (← power fuel))
      | _ => return .calculate .power e (← power fuel)
    else return e

/-- A variable with a sign that adds one to it or takes one away, or something else. -/
def stepped : Nat → Read Expr
  | 0 => misplaced
  | fuel + 1 => do
    let t ← peek
    let before? :=
      match t with
      | .sign "++" => some Operation.add
      | .sign "--" => some .subtract
      | _ => none
    match before? with
    | some o =>
      advance
      let e ← primary fuel
      if isTarget e then return .increment o true e else misplaced
    | none =>
      let e ← primary fuel
      if !isTarget e || t matches .sign "(" then return e
      else if ← accept "++" then return .increment .add false e
      else if ← accept "--" then return .increment .subtract false e
      else return e

/-- A variable that is read into, if there is one. -/
def optionalTarget : Nat → Read (Option Expr)
  | 0 => return none
  | fuel + 1 => do
    match ← peek with
    | .name _ _ | .sign "$" => return some (← primary fuel)
    | _ => return none

/-- An expression without signs around it. -/
def primary : Nat → Read Expr
  | 0 => misplaced
  | fuel + 1 => do
    match ← peek with
    | .number x =>
      advance
      return .number x
    | .text s =>
      advance
      return .text s
    | .pattern cs =>
      let m ← patternOf cs
      advance
      return .pattern m
    | .name s isCalled =>
      advance
      named fuel s isCalled
    | .sign "$" =>
      advance
      match ← ahead 2 with
      | .sign "-" :: _ | .sign "+" :: _ | .sign "!" :: _ => return .field (← signed fuel)
      | .sign "++" :: _ | .sign "--" :: _ => return .field (← stepped fuel)
      | [.name "NF" _, .sign "++"] | [.name "NF" _, .sign "--"] => return .field (← stepped fuel)
      | _ => return .field (← primary fuel)
    | .sign "(" =>
      advance
      let es ← comparing true (exprs fuel)
      expect ")"
      match es, ← peek with
      | [e], _ => return e
      | es, .keyword "in" =>
        advance
        return .contains es (← tableName)
      | _, _ => misplaced
    | .keyword "getline" =>
      advance
      let target ← optionalTarget fuel
      if ← accept "<" then return .getline (.file (← power fuel)) target
      else return .getline .main target
    | .keyword "split" =>
      advance
      expect "("
      comparing true do
        let text ← expr fuel
        expect ","
        let table ← tableName
        let separator ← if ← accept "," then some <$> expr fuel else pure none
        expect ")"
        return .builtin .split ([text, .variable table] ++ separator.toList)
    | .keyword "length" =>
      advance
      if !((← peek) matches .sign "(") then return .builtin .length []
      else
        advance
        if ← accept ")" then return .builtin .length []
        else
          match ← ahead 2 with
          | [.name s _, .sign ")"] =>
            advance
            advance
            return .builtin .length [.variable (← variableOf s)]
          | _ =>
            let e ← comparing true (expr fuel)
            expect ")"
            return .builtin .length [e]
    | .keyword s =>
      match builtins.lookup s with
      | none => misplaced
      | some (b, least, most) =>
        advance
        expect "("
        let arguments ← comparing true (arguments fuel)
        if arguments.length < least || most < arguments.length then
          bad ("wrong number of arguments in call to " ++ s)
        match b, arguments with
        | .locate, [text, e] => return .builtin b [text, ← asPattern e]
        | .replaceFirst, e :: more | .replaceAll, e :: more =>
          return .builtin b ((← asPattern e) :: more)
        | b, arguments => return .builtin b arguments
    | _ => misplaced

/-- What a name begins. -/
def named : Nat → String → Bool → Read Expr
  | 0, _, _ => misplaced
  | fuel + 1, s, isCalled => do
    let kind ← kind? s
    let isOwn := (← parameter? s).isSome
    let mayBeCalled := !isOwn && (kind == some .function || (kind.isNone && isCalled))
    match ← peek with
    | .sign "[" =>
      advance
      let key ← comparing true (exprs fuel)
      expect "]"
      return .element (← variableAs .table s) key
    | .sign "(" =>
      if mayBeCalled then
        advance
        modify fun r => { r with kinds := (s, .function) :: r.kinds }
        let arguments ← comparing true (arguments fuel)
        let caller := (((← get).frame).map Frame.name).getD ""
        modify fun r => { r with uses := ⟨caller, s, arguments⟩ :: r.uses }
        return .call s arguments
      else return .variable (← variableAs .value s)
    | _ => return .variable (← variableAs .value s)

/-- Expressions with commas between them. -/
def exprs : Nat → Read (List Expr)
  | 0 => misplaced
  | fuel + 1 => do
    let e ← expr fuel
    if ← accept "," then return e :: (← exprs fuel) else return [e]

/-- The arguments of a function up to the end of their parentheses. A name by itself may stand for a
table. -/
def arguments : Nat → Read (List Expr)
  | 0 => misplaced
  | fuel + 1 => do
    if ← accept ")" then return []
    else
      let e ←
        match ← ahead 2 with
        | .name s _ :: .sign t :: _ =>
          if t == "," || t == ")" then do
            advance
            pure (.variable (← variableOf s))
          else expr fuel
        | _ => expr fuel
      if ← accept "," then
        if (← peek) matches .sign ")" then misplaced
        return e :: (← arguments fuel)
      else
        expect ")"
        return [e]

end

/-! ## Statements -/

/-- Takes the end of a statement. A brace that ends a block stays. -/
def endOfStatement : Read Unit := do
  match ← peek with
  | .lineEnd | .sign ";" => advance
  | .sign "\x7d" => return
  | _ => misplaced

/-- Where the parentheses end that the text behind one opened. -/
def behindGroup : Nat → List Token → List Token
  | _, [] => []
  | depth, t :: ts =>
    match t.word with
    | .sign "(" => behindGroup (depth + 1) ts
    | .sign ")" => if depth == 0 then ts else behindGroup (depth - 1) ts
    | _ => behindGroup depth ts

/-- Whether a word ends what a statement writes. -/
def endsOutput : Word → Bool
  | .lineEnd | .over => true
  | .sign s => [";", "\x7d", ">", ">>", "|"].contains s
  | _ => false

/-- What a statement writes. -/
def output (fuel : Nat) : Read (List Expr) := do
  match (← get).rest with
  | [] => return []
  | t :: ts =>
    if endsOutput t.word then return []
    else if t.word matches .sign "(" then
      let after := (behindGroup 0 ts).headD lastToken
      if endsOutput after.word then
        advance
        comparing true (arguments fuel)
      else comparing false (exprs fuel)
    else comparing false (exprs fuel)

/-- Where a statement writes to. -/
def direction (fuel : Nat) : Read (Option (Direction × Expr)) := do
  let direct (d : Direction) : Read (Option (Direction × Expr)) := do
    advance
    return some (d, ← comparing false (expr fuel))
  match ← peek with
  | .sign ">" => direct .write
  | .sign ">>" => direct .append
  | .sign "|" => direct .pipe
  | _ => return none

/-- An expression in parentheses, with line ends behind it. -/
def parenthesised (fuel : Nat) : Read Expr := do
  expect "("
  let e ← comparing true (expr fuel)
  expect ")"
  return e

/-- An expression, unless the statement ends. -/
def optionalExpr (fuel : Nat) : Read (Option Expr) := do
  match ← peek with
  | .lineEnd | .sign ";" | .sign "\x7d" => return none
  | _ => some <$> expr fuel

/-- Does something within a loop. -/
def looping {α : Type} (read : Read α) : Read α := do
  modify fun r => { r with loops := r.loops + 1 }
  let a ← read
  modify fun r => { r with loops := r.loops - 1 }
  return a

/-- A statement that has no other ones within it. -/
def simple (fuel : Nat) : Read Statement := do
  match ← peek with
  | .keyword "print" =>
    advance
    let es ← output fuel
    return .print es (← direction fuel)
  | .keyword "printf" =>
    advance
    let es ← output fuel
    let target ← direction fuel
    if es.isEmpty then bad "no arguments in call to printf"
    return .printf es target
  | .keyword "break" =>
    if (← get).loops == 0 then bad "break statement outside of loop"
    advance
    return .leave
  | .keyword "continue" =>
    if (← get).loops == 0 then bad "continue statement outside of loop"
    advance
    return .skip
  | .keyword "next" =>
    if !(← get).hasRecord then bad "improper use of next"
    advance
    return .next
  | .keyword "nextfile" =>
    if !(← get).hasRecord then bad "improper use of nextfile"
    advance
    return .nextFile
  | .keyword "exit" =>
    advance
    return .exit (← optionalExpr fuel)
  | .keyword "return" =>
    if (← get).frame.isNone then bad "return outside function body"
    advance
    return .result (← optionalExpr fuel)
  | .keyword "delete" =>
    advance
    let table ← tableName
    if ← accept "[" then
      let key ← comparing true (exprs fuel)
      expect "]"
      return .delete table key
    else return .delete table []
  | _ => return .value (← expr fuel)

mutual

/-- A statement. -/
def statement : Nat → Read Statement
  | 0 => misplaced
  | fuel + 1 => do
    match ← peek with
    | .sign "\x7b" => block fuel
    | .sign ";" | .lineEnd =>
      advance
      return .nothing
    | .keyword "if" =>
      advance
      let condition ← parenthesised fuel
      skipLineEnds fuel
      let first ← statement fuel
      if ← acceptKeyword "else" then return .choose condition first (← statement fuel)
      else return .choose condition first .nothing
    | .keyword "while" =>
      advance
      let condition ← parenthesised fuel
      if ← accept ";" then return .loop .nothing (some condition) .nothing .nothing
      skipLineEnds fuel
      return .loop .nothing (some condition) .nothing (← looping (statement fuel))
    | .keyword "do" =>
      advance
      let body ← looping (statement fuel)
      if !(← acceptKeyword "while") then misplaced
      let condition ← parenthesised fuel
      endOfStatement
      return .loopOnce body condition
    | .keyword "for" =>
      advance
      expect "("
      match ← ahead 4 with
      | .name v _ :: .keyword "in" :: .name _ _ :: .sign ")" :: _ =>
        advance
        advance
        let v ← variableAs .value v
        let table ← tableName
        expect ")"
        skipLineEnds fuel
        return .forEach v table (← looping (statement fuel))
      | _ =>
        let start ← if (← peek) matches .sign ";" then pure .nothing else comparing true (simple fuel)
        expect ";"
        let condition ←
          if (← peek) matches .sign ";" then pure none else some <$> comparing true (expr fuel)
        expect ";"
        let step ← if (← peek) matches .sign ")" then pure .nothing else comparing true (simple fuel)
        expect ")"
        if ← accept ";" then return .loop start condition step .nothing
        skipLineEnds fuel
        return .loop start condition step (← looping (statement fuel))
    | _ =>
      let s ← simple fuel
      endOfStatement
      return s

/-- Statements in braces. -/
def block : Nat → Read Statement
  | 0 => misplaced
  | fuel + 1 => do
    expect "\x7b"
    .block <$> statements fuel

/-- Statements up to the end of their braces. -/
def statements : Nat → Read (List Statement)
  | 0 => misplaced
  | fuel + 1 => do
    if ← accept "\x7d" then return []
    else
      let s ← statement fuel
      return s :: (← statements fuel)

end

/-! ## Rules and functions -/

/-- The parameters of a function up to the end of their parentheses. -/
def parameters : Nat → List String → Read (List String)
  | 0, _ => misplaced
  | fuel + 1, before => do
    match ← peek with
    | .name s _ =>
      if before.contains s then bad (s ++ " is duplicated in argument list")
      advance
      if ← accept "," then parameters fuel (s :: before)
      else
        expect ")"
        return (s :: before).reverse
    | _ =>
      if before.isEmpty then
        expect ")"
        return []
      else misplaced

/-- A function. -/
def function (fuel : Nat) : Read Function := do
  match ← peek with
  | .name s _ =>
    match ← kind? s with
    | some .value => bad ("illegal reference to variable " ++ s)
    | some .table => bad ("illegal reference to array " ++ s)
    | _ => pure ()
    advance
    modify fun r => { r with kinds := (s, .function) :: r.kinds }
    expect "("
    let names ← parameters fuel []
    skipLineEnds fuel
    modify fun r => { r with frame := some ⟨s, names⟩, hasRecord := false }
    let body ← block fuel
    modify fun r => { r with frame := none }
    return ⟨s, names.length, body, []⟩
  | _ => misplaced

/-- What a rule without an action does. -/
def usualAction : Statement :=
  .print [] none

/-- The action of a rule, or the usual one. -/
def action (fuel : Nat) (hasRecord : Bool) : Read Statement := do
  modify fun r => { r with hasRecord }
  match ← peek with
  | .sign "\x7b" => block fuel
  | _ => misplaced

/-- A rule. -/
def rule (fuel : Nat) : Read Rule := do
  if ← acceptKeyword "BEGIN" then return ⟨.start, ← action fuel false⟩
  else if ← acceptKeyword "END" then return ⟨.stop, ← action fuel false⟩
  else if (← peek) matches .sign "\x7b" then return ⟨.always, ← action fuel true⟩
  else
    let first ← comparing true (expr fuel)
    let condition ←
      if ← accept "," then Condition.range first <$> comparing true (expr fuel)
      else pure (.holding first)
    match ← peek with
    | .lineEnd | .sign ";" =>
      advance
      return ⟨condition, usualAction⟩
    | _ => return ⟨condition, ← action fuel true⟩

/-- The rules and functions of a script, of which those in front come last first. -/
def items : Nat → List Rule → List Function → Read (List Rule × List Function)
  | 0, _, _ => misplaced
  | fuel + 1, rules, functions => do
    match ← peek with
    | .over => return (rules.reverse, functions.reverse)
    | .lineEnd =>
      advance
      items fuel rules functions
    | .keyword "function" =>
      advance
      let f ← function fuel
      items fuel rules (f :: functions)
    | _ =>
      let r ← rule fuel
      items fuel (r :: rules) functions

end Read

/-! ## Tables -/

/-- What a script knows about tables: the parameters and the names that are some. -/
structure Tables where
  own : List (String × Nat)
  shared : List String

/-- The tables known after a look at a call. -/
def Tables.after (t : Tables) (u : Use) : Tables :=
  (u.arguments.zipIdx).foldl (fun (t : Tables) (a : Expr × Nat) =>
    if !t.own.contains (u.callee, a.2) then t
    else
      match a.1 with
      | .variable (.own n) => if t.own.contains (u.caller, n) then t else { t with own := (u.caller, n) :: t.own }
      | .variable (.shared s) => if t.shared.contains s then t else { t with shared := s :: t.shared }
      | _ => t) t

/-- The tables known after a number of looks at all calls. -/
def Tables.closure (uses : List Use) : Nat → Tables → Tables
  | 0, t => t
  | n + 1, t => Tables.closure uses n (uses.foldl Tables.after t)

/-- Reads a script. -/
def readScript (cs : List Char) : Except Fault Script := do
  let tokens := Token.scan cs
  let start : Reading := ⟨tokens, 0, 0, [("ENVIRON", .table), ("ARGV", .table)], none, [], [], 0, false, true⟩
  let ((rules, functions), r) ← (Read.items (20 * tokens.length + 100) [] []).run start
  let last := (tokens.getLast?.map Token.line).getD 1
  match r.uses.reverse.find? fun u => !functions.any fun f => f.name == u.callee with
  | some u => throw ⟨last, "function " ++ u.callee ++ " never defined"⟩
  | none => pure ()
  let shared := (r.kinds.filter fun k => k.2 == .table).map Prod.fst
  let tables := Tables.closure r.uses (r.uses.length + 1) ⟨r.tables, shared⟩
  let complete (f : Function) : Function :=
    { f with tables := (tables.own.filter fun t => t.1 == f.name).map Prod.snd }
  return ⟨rules.toArray, functions.map complete, tables.shared⟩

end LintRoster.Machine.Tool.Awk
