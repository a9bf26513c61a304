import LintRoster.Shell.State

/-!
# Arithmetic of the shell

Expressions over integers of 64 bits, which wrap around. An expression is evaluated as it is read, so
what stands before a fault takes effect. Operands that do not count are read but not evaluated.
-/

namespace LintRoster.Shell.Arithmetic

/-- A unit of an expression. -/
inductive Token where
  | ending
  | unknown
  | number (n : Int)
  | name (s : String)
  | operator (s : String)
deriving DecidableEq, Repr

/-- An expression that is being read: its text, what was not read yet, and the unit that comes after
what was evaluated. -/
structure Cursor where
  text : String
  rest : List Char
  last : Token

/-- Evaluates a part of an expression. -/
abbrev Calc :=
  StateT Cursor Sh

/-- The operators, longer ones first. -/
def operators : List String :=
  ["<<=", ">>=", "&&", "||", "<<", ">>", "<=", ">=", "==", "!=", "+=", "-=", "*=", "/=", "%=",
    "&=", "|=", "^=", "+", "-", "*", "/", "%", "<", ">", "&", "|", "^", "!", "~", "?", ":", "=",
    "(", ")"]

/-- Refuses the expression. -/
def refuse {α : Type} (complaint : String) : Calc α := do
  let text := (← get).text
  Sh.fault ("arithmetic expression: " ++ complaint ++ ": \"" ++ text ++ "\"")

/-- Reads a unit. -/
def lex : Calc Token := do
  let c ← get
  let cs := c.rest.dropWhile fun c => c == ' ' || c == '\t' || c == '\n'
  match cs with
  | [] =>
    set { c with rest := [] }
    return .ending
  | d :: _ =>
    if d.isDigit then
      let n := Numeral.scan true cs
      set { c with rest := n.rest }
      return .number n.value
    else if Word.isNameStart d then
      set { c with rest := cs.dropWhile Word.isNameChar }
      return .name (String.ofList (cs.takeWhile Word.isNameChar))
    else
      match operators.find? fun o => o.toList.isPrefixOf cs with
      | some o =>
        set { c with rest := cs.drop o.length }
        return .operator o
      | none =>
        set { c with rest := cs }
        return .unknown

/-- Remembers the unit that comes after what was evaluated. -/
def setLast (t : Token) : Calc Unit :=
  modify fun c => { c with last := t }

/-- How weakly a binary operator binds, if it is one that takes the values of both sides. -/
def weakness? : Token → Option Nat
  | .operator o =>
    if ["*", "/", "%"].contains o then some 0
    else if ["+", "-"].contains o then some 1
    else if ["<<", ">>"].contains o then some 2
    else if ["<", "<=", ">", ">="].contains o then some 3
    else if ["==", "!="].contains o then some 4
    else if o == "&" then some 5
    else if o == "^" then some 6
    else if o == "|" then some 7
    else none
  | _ => none

/-- Weaker than every binary operator. -/
def weakest : Nat :=
  8

/-- The operators that assign. -/
def assignments : List String :=
  ["=", "+=", "-=", "*=", "/=", "%=", "&=", "|=", "^=", "<<=", ">>="]

/-- An integer of 64 bits. -/
def wrap (n : Int) : Int :=
  Int.bmod n (Nat.pow 2 64)

/-- A truth value as a number. -/
def ofBool (b : Bool) : Int :=
  if b then 1 else 0

/-- The bits of an integer of 64 bits. -/
def bits (n : Int) : Nat :=
  (n % (Nat.pow 2 64 : Nat)).toNat

/-- The value of an operator for two operands. There is none for a division by zero. -/
def operate? (operator : String) (a b : Int) : Option Int :=
  if operator == "+" then some (wrap (a + b))
  else if operator == "-" then some (wrap (a - b))
  else if operator == "*" then some (wrap (a * b))
  else if operator == "/" then if b == 0 then none else some (wrap (Int.tdiv a b))
  else if operator == "%" then if b == 0 then none else some (wrap (Int.tmod a b))
  else if operator == "==" then some (ofBool (a == b))
  else if operator == "!=" then some (ofBool (a != b))
  else if operator == "<" then some (ofBool (a < b))
  else if operator == ">" then some (ofBool (a > b))
  else if operator == "<=" then some (ofBool (a ≤ b))
  else if operator == ">=" then some (ofBool (a ≥ b))
  else if operator == "<<" then some (wrap (a * (Nat.pow 2 (bits b % 64) : Nat)))
  else if operator == ">>" then some (wrap (a / (Nat.pow 2 (bits b % 64) : Nat)))
  else if operator == "&" then some (wrap (bits a &&& bits b : Nat))
  else if operator == "|" then some (wrap (bits a ||| bits b : Nat))
  else some (wrap (bits a ^^^ bits b : Nat))

/-- Applies an operator. -/
def operate (operator : String) (a b : Int) : Calc Int :=
  match operate? operator a b with
  | some n => return n
  | none => refuse "division by zero"

/-- The number that a variable holds. One without a value is zero. -/
def lookup (name : String) : Calc Int := do
  let text := ((← getThe State).value? name).getD ""
  match Numeral.value? true text with
  | some n => return n
  | none => Sh.badNumber text

/-- The text of an operator. -/
def Token.symbol : Token → String
  | .operator o => o
  | _ => ""

mutual

/-- Evaluates an operand from its first unit on, of which the second one is read already. -/
def primary (skips : Bool) : Nat → Token → Token → Calc Int
  | 0, _, _ => refuse "expecting primary"
  | fuel + 1, t, ahead => do
    match t with
    | .number n =>
      setLast ahead
      return n
    | .name s =>
      setLast ahead
      if skips then return 0 else lookup s
    | .operator "(" =>
      let n ← assignment skips fuel ahead
      if (← get).last != .operator ")" then refuse "expecting ')'"
      setLast (← lex)
      return n
    | .operator "+" => primary skips fuel ahead (← lex)
    | .operator "-" => return wrap (- (← primary skips fuel ahead (← lex)))
    | .operator "!" => return ofBool ((← primary skips fuel ahead (← lex)) == 0)
    | .operator "~" => return -(← primary skips fuel ahead (← lex)) - 1
    | _ => refuse "expecting primary"

/-- Evaluates what follows a first operand and its operator, as far as it binds more strongly than
`limit`. -/
def binaryFrom (skips : Bool) : Nat → Int → Token → Nat → Calc Int
  | 0, _, _, _ => refuse "expecting primary"
  | fuel + 1, a, operator, limit => do
    let t ← lex
    let mut b ← primary skips fuel t (← lex)
    let own := (weakness? operator).getD weakest
    if (weakness? (← get).last).any (· < own) then
      b ← binaryFrom skips fuel b (← get).last own
    let value ← if skips then pure b else operate operator.symbol a b
    match weakness? (← get).last with
    | none => return value
    | some w => if w ≥ limit then return value else binaryFrom skips fuel value (← get).last limit

/-- Evaluates operands that are joined by binary operators. -/
def binary (skips : Bool) : Nat → Token → Token → Calc Int
  | 0, _, _ => refuse "expecting primary"
  | fuel + 1, t, ahead => do
    let a ← primary skips fuel t ahead
    let operator := (← get).last
    if (weakness? operator).isNone then return a else binaryFrom skips fuel a operator weakest

/-- Evaluates conditions which must all hold. -/
def conjunction (skips : Bool) : Nat → Token → Token → Calc Int
  | 0, _, _ => refuse "expecting primary"
  | fuel + 1, t, ahead => do
    let a ← binary skips fuel t ahead
    if (← get).last != .operator "&&" then return a
    let t ← lex
    let b ← conjunction (skips || a == 0) fuel t (← lex)
    return ofBool (a != 0 && b != 0)

/-- Evaluates conditions of which one must hold. -/
def disjunction (skips : Bool) : Nat → Token → Token → Calc Int
  | 0, _, _ => refuse "expecting primary"
  | fuel + 1, t, ahead => do
    let a ← conjunction skips fuel t ahead
    if (← get).last != .operator "||" then return a
    let t ← lex
    let b ← disjunction (skips || a != 0) fuel t (← lex)
    return ofBool (a != 0 || b != 0)

/-- Evaluates a choice between two expressions. -/
def choice (skips : Bool) : Nat → Token → Token → Calc Int
  | 0, _, _ => refuse "expecting primary"
  | fuel + 1, t, ahead => do
    let a ← disjunction skips fuel t ahead
    if (← get).last != .operator "?" then return a
    let b ← assignment (skips || a == 0) fuel (← lex)
    if (← get).last != .operator ":" then refuse "expecting ':'"
    let t ← lex
    let c ← choice (skips || a != 0) fuel t (← lex)
    return if a != 0 then b else c

/-- Evaluates an assignment or a choice from its first unit on. -/
def assignment (skips : Bool) : Nat → Token → Calc Int
  | 0, _ => refuse "expecting primary"
  | fuel + 1, t => do
    let ahead ← lex
    match t with
    | .name name =>
      if !assignments.contains ahead.symbol then choice skips fuel t ahead
      else
        let n ← assignment skips fuel (← lex)
        if skips then return n
        let operator := String.ofList ahead.symbol.toList.dropLast
        let value ← if operator == "" then pure n else operate operator (← lookup name) n
        StateT.lift (Sh.assign name (toString value))
        return value
    | t => choice skips fuel t ahead

end

/-- Evaluates a whole expression. -/
def evaluate (text : String) : Sh Int := do
  let whole : Calc Int := do
    let n ← assignment false (20 * text.length + 20) (← lex)
    if (← get).last != .ending then refuse "expecting EOF"
    return n
  whole.run' ⟨text, text.toList, .ending⟩

end LintRoster.Shell.Arithmetic
