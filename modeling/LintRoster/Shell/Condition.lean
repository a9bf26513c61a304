import LintRoster.FileSystem
import LintRoster.Machine.Device
import LintRoster.Shell.Glob
import LintRoster.Shell.Numeral

/-!
# Conditions

The conditions that the command `test` decides: about texts, numbers and files, joined by words. A
word may be an operator in one place and an operand in another, which is told by what follows.
-/

namespace LintRoster.Shell.Condition

/-- What a word may be besides an operand. -/
inductive Kind where
  | unary
  | binary
  | negation
  | conjunction
  | disjunction
  | opening
  | closing
deriving DecidableEq, Repr

/-- The operators with one operand. -/
def unary : List String :=
  ["-r", "-w", "-x", "-e", "-f", "-d", "-c", "-b", "-p", "-u", "-g", "-k", "-s", "-t", "-z", "-n",
    "-h", "-O", "-G", "-L", "-S"]

/-- The operators with two operands. -/
def binary : List String :=
  ["=", "!=", "<", ">", "-eq", "-ne", "-ge", "-gt", "-le", "-lt", "-nt", "-ot", "-ef"]

/-- What a word may be besides an operand. -/
def kind? (w : String) : Option Kind :=
  if unary.contains w then some .unary
  else if binary.contains w then some .binary
  else if w == "!" then some .negation
  else if w == "-a" then some .conjunction
  else if w == "-o" then some .disjunction
  else if w == "(" then some .opening
  else if w == ")" then some .closing
  else none

/-- What the first of some words is. There is no answer if it is an operand, or if there is none. -/
def kindOf? (ws : List String) : Option Kind :=
  match ws with
  | [] => none
  | w :: rest =>
    match kind? w, rest with
    | some .unary, [] => none
    | some .unary, [_] => some .unary
    | some .unary, next :: _ => if kind? next == some .binary then none else some .unary
    | some .opening, [] => none
    | kind, _ => kind

/-! ## Operands -/

/-- The number that a word means. -/
def number (w : String) : Except String Int :=
  match Numeral.value? false w with
  | some n => .ok n
  | none => .error ("Illegal number: " ++ w)

/-- What a path leads to. -/
def found? (fs : FileSystem) (path : String) : Option (List String × Node) :=
  (fs.stat (Glob.pathOf path)).toOption

/-- Whether a path leads to a device. -/
def isDevice (fs : FileSystem) (path : String) : Bool :=
  (found? fs path).any fun (place, _) => (Machine.Device.at? place).isSome

/-- Whether a file or directory may be executed or entered. -/
def mayExecute : Node → Bool
  | .file _ executable => executable
  | _ => true

/-- Whether there is anything in a file. Directories count as filled. -/
def isFilled : Node → Bool
  | .file bytes _ => !bytes.isEmpty
  | _ => true

/-- Whether a path is a link. -/
def isLink (fs : FileSystem) (path : String) : Bool :=
  match fs.resolveLink (Glob.pathOf path) with
  | .ok (.node _ (.link _)) => true
  | _ => false

/-- Decides a condition about one operand. -/
def decideUnary (fs : FileSystem) (operator w : String) : Except String Bool :=
  let node? := (found? fs w).map Prod.snd
  let isSticky := (found? fs w).any fun (place, _) => place == ["tmp"]
  match operator with
  | "-z" => .ok (w == "")
  | "-n" => .ok (w != "")
  | "-t" => (number w).map fun _ => false
  | "-e" | "-r" | "-w" | "-O" | "-G" => .ok node?.isSome
  | "-x" => .ok (node?.any mayExecute)
  | "-s" => .ok (node?.any isFilled)
  | "-d" => .ok (node?.any Node.isDir)
  | "-f" => .ok (node?.any Node.isFile && !isDevice fs w)
  | "-c" => .ok (isDevice fs w)
  | "-h" | "-L" => .ok (isLink fs w)
  | "-k" => .ok isSticky
  | _ => .ok false

/-- Decides a condition about two operands. -/
def decideBinary (fs : FileSystem) (operator a b : String) : Except String Bool :=
  let compare (holds : Int → Int → Bool) : Except String Bool := do
    let m ← number a
    let n ← number b
    return holds m n
  match operator with
  | "=" => .ok (a == b)
  | "!=" => .ok (a != b)
  | "<" => .ok (a < b)
  | ">" => .ok (b < a)
  | "-eq" => compare fun m n => m == n
  | "-ne" => compare fun m n => m != n
  | "-ge" => compare fun m n => m ≥ n
  | "-gt" => compare fun m n => m > n
  | "-le" => compare fun m n => m ≤ n
  | "-lt" => compare fun m n => m < n
  | "-ef" =>
    match found? fs a, found? fs b with
    | some (p, _), some (q, _) => .ok (p == q)
    | _, _ => .ok false
  | _ => .ok false

/-! ## Reading conditions -/

/-- What was decided so far, with the words from the last one on that was used. -/
abbrev Decided :=
  Except String (Bool × List String)

/-- Complains about an operator. -/
def complain {α : Type} (w complaint : String) : Except String α :=
  .error (if w == "" then complaint else w ++ ": " ++ complaint)

/-- Decides a condition of one word, or of one operator and its operands. -/
def simple (fs : FileSystem) (kind : Option Kind) (ws : List String) : Decided :=
  match kind, ws with
  | _, [] => .ok (false, [])
  | some .unary, operator :: rest =>
    match rest with
    | [] => complain operator "argument expected"
    | w :: _ => (decideUnary fs operator w).map fun b => (b, rest)
  | _, w :: rest =>
    match kindOf? rest, rest with
    | some .binary, operator :: more =>
      match more with
      | [] => complain operator "argument expected"
      | v :: _ => (decideBinary fs operator w v).map fun b => (b, more)
    | _, _ => .ok (w != "", ws)

mutual

/-- Decides conditions of which one must hold. -/
def disjunction (fs : FileSystem) : Nat → Option Kind → List String → Decided
  | 0, _, ws => .ok (false, ws)
  | fuel + 1, kind, ws => do
    let (a, ws) ← conjunction fs fuel kind ws
    if kindOf? (ws.drop 1) == some .disjunction then
      let (b, ws) ← disjunction fs fuel (kindOf? (ws.drop 2)) (ws.drop 2)
      return (a || b, ws)
    else return (a, ws)

/-- Decides conditions that must all hold. -/
def conjunction (fs : FileSystem) : Nat → Option Kind → List String → Decided
  | 0, _, ws => .ok (false, ws)
  | fuel + 1, kind, ws => do
    let (a, ws) ← negation fs fuel kind ws
    if kindOf? (ws.drop 1) == some .conjunction then
      let (b, ws) ← conjunction fs fuel (kindOf? (ws.drop 2)) (ws.drop 2)
      return (a && b, ws)
    else return (a, ws)

/-- Decides a condition that may be negated or in parentheses. -/
def negation (fs : FileSystem) : Nat → Option Kind → List String → Decided
  | 0, _, ws => .ok (false, ws)
  | fuel + 1, kind, ws => do
    match kind with
    | some .negation =>
      let (a, ws) ← negation fs fuel (kindOf? (ws.drop 1)) (ws.drop 1)
      return (!a, ws)
    | some .opening =>
      let inner := ws.drop 1
      if kindOf? inner == some .closing then return (false, inner)
      let (a, ws) ← disjunction fs fuel (kindOf? inner) inner
      if kindOf? (ws.drop 1) != some .closing then complain "" "closing paren expected"
      return (a, ws.drop 1)
    | kind => simple fs kind ws

end

/-- Decides all words from the first one on, which is of the given kind. -/
def decideFrom (fs : FileSystem) (kind : Option Kind) (ws : List String) : Except String Bool := do
  let (b, rest) ← disjunction fs (3 * ws.length + 3) kind ws
  match rest with
  | w :: _ :: _ => complain w "unexpected operator"
  | _ => return b

/-- Decides the condition that words make up. Three or four words are told apart by their number
first. -/
def holds (fs : FileSystem) : Nat → List String → Except String Bool
  | 0, _ => .ok false
  | _, [] => .ok false
  | fuel + 1, w :: ws =>
    let words := w :: ws
    if words.length == 3 && kind? (ws.headD "") == some .binary then decideFrom fs none words
    else if words.length == 3 || words.length == 4 then
      if w == "(" && words.getLast? == some ")" then
        decideFrom fs (kindOf? ws.dropLast) ws.dropLast
      else if w == "!" then (holds fs fuel ws).map (!·)
      else decideFrom fs (kindOf? words) words
    else decideFrom fs (kindOf? words) words

/-- Decides the condition of the command with a name. With a bracket as its name, the last word must
be one too. -/
def evaluate (fs : FileSystem) (name : String) (ws : List String) : Except String Bool :=
  if name.toList.head? == some '[' then
    if ((ws.getLast?.getD "").toList.head?) == some ']' then holds fs 4 ws.dropLast
    else .error "missing ]"
  else holds fs 4 ws

end LintRoster.Shell.Condition
