import LintRoster.Machine.Tool
import LintRoster.Regex.Matching
import LintRoster.Regex.Reading
import LintRoster.Text.Letters

/-!
# Values of expressions

A tool that takes its arguments as an expression and writes the value. Operators stand between their
operands, each as an argument of its own. `Expression.alternative` reads and evaluates in one pass.
-/

namespace LintRoster.Machine.Tool

namespace Expression

/-- What is wrong with an expression. -/
inductive Fault where
  | missingOperand
  | missingAfter (word : String)
  | unexpected (word : String)
  | unexpectedClose
  | unclosed (word : String)
  | notInteger
  | divisionByZero
  | badPattern (fault : Regex.Fault)

/-- A fault in words. -/
def Fault.message : Fault → String
  | missingOperand => "missing operand"
  | missingAfter word => "syntax error: missing argument after " ++ Quoted.curved word
  | unexpected word => "syntax error: unexpected argument " ++ Quoted.curved word
  | unexpectedClose => "syntax error: unexpected ')'"
  | unclosed word => "syntax error: expecting ')' after " ++ Quoted.curved word
  | notInteger => "non-integer argument"
  | divisionByZero => "division by zero"
  | badPattern fault => fault.message

/-- The words that are left, and the one before them. -/
structure Reading where
  words : List String
  before : String

/-- A step in reading an expression. -/
abbrev Read :=
  StateT Reading (Except Fault)

/-! ## Words -/

/-- Takes the next word, which has to be there. -/
def take : Read String := do
  let r ← get
  match r.words with
  | [] => throw (.missingAfter r.before)
  | w :: words =>
    set (Reading.mk words w)
    return w

/-- Takes the next word if it is one of some. -/
def takeOf? (names : List String) : Read (Option String) := do
  match (← get).words with
  | w :: _ =>
    if names.contains w then
      discard take
      return some w
    else return none
  | [] => return none

/-! ## Values -/

/-- The integer that a text is. -/
def integer? (s : String) : Option Int :=
  match s.toList with
  | '-' :: cs =>
    if cs.isEmpty || !cs.all Char.isDigit then none
    else (String.ofList cs).toNat?.map fun n => -(n : Int)
  | cs => if cs.isEmpty || !cs.all Char.isDigit then none else s.toNat?.map Int.ofNat

/-- Whether a value counts as nothing. -/
def isNull (s : String) : Bool :=
  let cs := s.toList
  let ds := if cs.head? == some '-' then cs.drop 1 else cs
  cs.isEmpty || (!ds.isEmpty && ds.all (· == '0'))

/-- The value for a truth. -/
def truth (b : Bool) : String :=
  if b then "1" else "0"

/-- The order of two values, which is the one of numbers if both are some. -/
def order (a b : String) : Ordering :=
  match integer? a, integer? b with
  | some m, some n => compare m n
  | _, _ => if a < b then .lt else if a == b then .eq else .gt

/-- The value of a comparison. -/
def comparison (name a b : String) : String :=
  let o := order a b
  truth (match name with
    | "<" => o == .lt
    | "<=" => o != .gt
    | "=" | "==" => o == .eq
    | "!=" => o != .eq
    | ">=" => o != .lt
    | _ => o == .gt)

/-- The value of an operation on integers. -/
def arithmetic (name a b : String) : Except Fault String :=
  match integer? a, integer? b with
  | some m, some n =>
    match name with
    | "+" => .ok (toString (m + n))
    | "-" => .ok (toString (m - n))
    | "*" => .ok (toString (m * n))
    | "/" => if n == 0 then .error .divisionByZero else .ok (toString (m.tdiv n))
    | _ => if n == 0 then .error .divisionByZero else .ok (toString (m.tmod n))
  | _, _ => .error .notInteger

/-- The part of a text that the first group of a pattern stands for at its beginning, or how long the
match is if there are no groups. -/
def matching (text pattern : String) : Except Fault String :=
  match Regex.read ⟨false, true⟩ (Letters.ofText pattern) with
  | .error fault => .error (.badPattern fault)
  | .ok (e, _) =>
    let cs := Letters.ofText text
    let m := Regex.matcher false e
    let hasGroup := 0 < e.groups
    match m.matchAt? cs ⟨none, cs, 0⟩ with
    | none => .ok (if hasGroup then "" else "0")
    | some found =>
      if !hasGroup then .ok (toString (Regex.Matcher.ends found).2)
      else
        match found.getD 2 none, found.getD 3 none with
        | some first, some last =>
          .ok (Bytes.ofBytes (Letters.toBytes (Regex.Matcher.slice cs first last)))
        | _, _ => .ok ""

/-- The place of the first character of a text that is one of some. -/
def indexOf (text signs : String) : String :=
  let signs := Letters.ofText signs
  match (Letters.ofText text).findIdx? signs.contains with
  | some i => toString (i + 1)
  | none => "0"

/-- A part of a text, by its first place and its length. -/
def part (text first count : String) : String :=
  match integer? first, integer? count with
  | some i, some n =>
    if i < 1 || n < 1 then ""
    else
      let cs := ((Letters.ofText text).drop (i.toNat - 1)).take n.toNat
      Bytes.ofBytes (Letters.toBytes cs)
  | _, _ => ""

/-! ## Expressions -/

/-- A chain of operands, with operators between them. -/
def chain (names : List String) (operand : Read String)
    (apply : String → String → String → Except Fault String) : Nat → String → Read String
  | 0, a => return a
  | fuel + 1, a => do
    match ← takeOf? names with
    | none => return a
    | some name =>
      let b ← operand
      chain names operand apply fuel (← apply name a b)

mutual

/-- Reads alternatives: the first value that counts, or the last one. -/
def alternative : Nat → Bool → Read String
  | 0, _ => throw .missingOperand
  | fuel + 1, counts => do
    alternatives fuel counts (← conjunction fuel counts)

/-- Reads more alternatives after a value. -/
def alternatives : Nat → Bool → String → Read String
  | 0, _, a => return a
  | fuel + 1, counts, a => do
    match ← takeOf? ["|"] with
    | none => return a
    | some _ =>
      let b ← conjunction fuel (counts && isNull a)
      alternatives fuel counts (if !isNull a then a else if isNull b then "0" else b)

/-- Reads values that all have to count. -/
def conjunction : Nat → Bool → Read String
  | 0, _ => throw .missingOperand
  | fuel + 1, counts => do
    conjunctions fuel counts (← comparisons fuel counts)

/-- Reads more values that have to count after one. -/
def conjunctions : Nat → Bool → String → Read String
  | 0, _, a => return a
  | fuel + 1, counts, a => do
    match ← takeOf? ["&"] with
    | none => return a
    | some _ =>
      let b ← comparisons fuel (counts && !isNull a)
      conjunctions fuel counts (if isNull a || isNull b then "0" else a)

/-- Reads comparisons. -/
def comparisons : Nat → Bool → Read String
  | 0, _ => throw .missingOperand
  | fuel + 1, counts => do
    let a ← sum fuel counts
    chain ["<", "<=", "=", "==", "!=", ">=", ">"] (sum fuel counts)
      (fun name a b => .ok (comparison name a b)) fuel a

/-- Reads sums. -/
def sum : Nat → Bool → Read String
  | 0, _ => throw .missingOperand
  | fuel + 1, counts => do
    let a ← product fuel counts
    chain ["+", "-"] (product fuel counts)
      (fun name a b => if counts then arithmetic name a b else .ok "0") fuel a

/-- Reads products. -/
def product : Nat → Bool → Read String
  | 0, _ => throw .missingOperand
  | fuel + 1, counts => do
    let a ← patternMatch fuel counts
    chain ["*", "/", "%"] (patternMatch fuel counts)
      (fun name a b => if counts then arithmetic name a b else .ok "0") fuel a

/-- Reads matches. -/
def patternMatch : Nat → Bool → Read String
  | 0, _ => throw .missingOperand
  | fuel + 1, counts => do
    let a ← function fuel counts
    chain [":"] (function fuel counts)
      (fun _ a b => if counts then matching a b else .ok "0") fuel a

/-- Reads a function with its arguments, or a value. -/
def function : Nat → Bool → Read String
  | 0, _ => throw .missingOperand
  | fuel + 1, counts => do
    match ← takeOf? ["+", "length", "match", "index", "substr"] with
    | some "+" => take
    | some "length" => return toString (Letters.ofText (← function fuel counts)).length
    | some "match" =>
      let text ← function fuel counts
      let pattern ← function fuel counts
      if counts then matching text pattern else return "0"
    | some "index" =>
      let text ← function fuel counts
      return indexOf text (← function fuel counts)
    | some _ =>
      let text ← function fuel counts
      let first ← function fuel counts
      return part text first (← function fuel counts)
    | none => value fuel counts

/-- Reads a value. -/
def value : Nat → Bool → Read String
  | 0, _ => throw .missingOperand
  | fuel + 1, counts => do
    match ← take with
    | "(" =>
      let a ← alternative fuel counts
      let r ← get
      match r.words with
      | ")" :: _ =>
        discard take
        return a
      | [] => throw (.unclosed r.before)
      | w :: _ => throw (.unexpected w)
    | ")" => throw .unexpectedClose
    | w => return w

end

/-- The value of an expression. -/
def evaluate (words : List String) : Except Fault String := do
  if words.isEmpty then throw .missingOperand
  let (a, r) ← (alternative (10 * words.length + 20) true).run ⟨words, ""⟩
  match r.words with
  | [] => return a
  | w :: _ => throw (.unexpected w)

end Expression

/-- Writes the value of an expression. -/
def expr : Tool := fun _ call => do
  let words := if call.arguments.head? == some "--" then call.arguments.drop 1 else call.arguments
  match Expression.evaluate words with
  | .ok value => say call (value ++ "\n") (if Expression.isNull value then 1 else 0)
  | .error .missingOperand => misused call 2 "missing operand"
  | .error fault =>
    complain call fault.message
    return 2

end LintRoster.Machine.Tool
