import LintRoster.Regex.Matching

/-!
# Scripts for records

A script has rules, each with a condition and an action that is carried out for every record that
fulfils it. Actions calculate with numbers and texts, and with tables of them.
-/

namespace LintRoster.Machine.Tool.Awk

/-- What a name stands for. -/
inductive Variable where
  /-- The number of fields of the record. -/
  | fieldCount
  /-- What the whole script knows. -/
  | shared (name : String)
  /-- A parameter of the function, by its place. -/
  | own (index : Nat)
deriving DecidableEq, Repr

/-- Calculations with two numbers. -/
inductive Operation where
  | add
  | subtract
  | multiply
  | divide
  | remainder
  | power
deriving DecidableEq, Repr

/-- Comparisons. -/
inductive Comparison where
  | less
  | lessEqual
  | equal
  | unequal
  | greater
  | greaterEqual
deriving DecidableEq, Repr

/-- The functions that every script has. -/
inductive Builtin where
  | length
  | substr
  | index
  | split
  | replaceFirst
  | replaceAll
  | locate
  | format
  | small
  | capital
  | truncate
  | squareRoot
  | exponential
  | logarithm
  | sine
  | cosine
  | arcTangent
  | random
  | seed
  | system
  | close
  | flush
  | time
deriving DecidableEq, Repr

mutual

/-- Expressions. -/
inductive Expr where
  | number (x : Float)
  | text (s : String)
  | pattern (m : Regex.Matcher)
  | variable (v : Variable)
  | field (index : Expr)
  | element (table : Variable) (key : List Expr)
  | contains (key : List Expr) (table : Variable)
  | assign (target value : Expr)
  | update (o : Operation) (target value : Expr)
  /-- Adds one to a variable, or takes it away, and gives the value that it has then or had before. -/
  | increment (o : Operation) (givesNew : Bool) (target : Expr)
  | calculate (o : Operation) (first second : Expr)
  | negative (e : Expr)
  | positive (e : Expr)
  | opposite (e : Expr)
  | both (first second : Expr)
  | either (first second : Expr)
  | choose (condition first second : Expr)
  | compare (c : Comparison) (first second : Expr)
  | holds (negated : Bool) (e pattern : Expr)
  | joined (first second : Expr)
  | call (name : String) (arguments : List Expr)
  | builtin (b : Builtin) (arguments : List Expr)
  | getline (source : Source) (target : Option Expr)

/-- Where a record is read from. -/
inductive Source where
  | main
  | file (name : Expr)
  | command (text : Expr)

end

instance : Inhabited Expr :=
  ⟨.text ""⟩

/-- How the output of a statement is directed elsewhere. -/
inductive Direction where
  | write
  | append
  | pipe
deriving DecidableEq, Repr

/-- Statements. -/
inductive Statement where
  | nothing
  | value (e : Expr)
  | print (es : List Expr) (target : Option (Direction × Expr))
  | printf (es : List Expr) (target : Option (Direction × Expr))
  | block (ss : List Statement)
  | choose (condition : Expr) (first second : Statement)
  /-- A loop, with a condition before each round and a step behind it. -/
  | loop (start : Statement) (condition : Option Expr) (step body : Statement)
  /-- A loop with a condition behind each round. -/
  | loopOnce (body : Statement) (condition : Expr)
  | forEach (v table : Variable) (body : Statement)
  /-- Leaves a loop. -/
  | leave
  /-- Goes on with the next round of a loop. -/
  | skip
  | next
  | nextFile
  | exit (status : Option Expr)
  /-- Ends a function with a value. -/
  | result (value : Option Expr)
  | delete (table : Variable) (key : List Expr)

instance : Inhabited Statement :=
  ⟨.nothing⟩

/-- When the action of a rule is carried out. -/
inductive Condition where
  | start
  | stop
  | always
  | holding (e : Expr)
  /-- From a record that fulfils the first expression to one that fulfils the second. -/
  | range (first second : Expr)

/-- A rule. Without an action it prints the record. -/
structure Rule where
  condition : Condition
  action : Statement

/-- A function. -/
structure Function where
  name : String
  /-- How many parameters it has. -/
  parameters : Nat
  body : Statement
  /-- Which parameters are tables. -/
  tables : List Nat

/-- A script. -/
structure Script where
  rules : Array Rule
  functions : List Function
  /-- The names of the tables that the whole script knows. -/
  tables : List String

end LintRoster.Machine.Tool.Awk
