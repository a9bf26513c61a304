/-!
# Regular expressions

A regular expression describes texts. It may have groups, which remember what they stand for, and
places that it holds at. `Regex.program` turns it into instructions for threads that read a text.
-/

namespace LintRoster

namespace Regex

/-- An element of a set of characters. -/
inductive Member where
  | one (c : Char)
  | range (low high : Char)
  | kind (name : String)
deriving DecidableEq, Repr

/-- Where in a text something holds. -/
inductive Place where
  | start
  | stop
  | lineStart
  | lineStop
  | textStart
  | textStop
  | wordStart
  | wordStop
  | wordEdge
  | noWordEdge
  /-- Behind no character of a word. -/
  | afterGap
  /-- In front of no character of a word. -/
  | beforeGap
deriving DecidableEq, Repr

end Regex

/-- A regular expression. -/
inductive Regex where
  | empty
  | char (c : Char)
  | any
  | among (negated : Bool) (members : List Regex.Member)
  | place (p : Regex.Place)
  | group (number : Nat) (body : Regex)
  | again (number : Nat)
  | both (first second : Regex)
  | either (first second : Regex)
  /-- A body that occurs at least and at most so many times. -/
  | repeated (body : Regex) (least : Nat) (most : Option Nat)
deriving DecidableEq, Repr, Inhabited

namespace Regex

/-! ## Characters -/

/-- Whether a character belongs to words. -/
def isWordChar (c : Char) : Bool :=
  c.isAlphanum || c == '_' || (128 ≤ c.toNat && c.toNat < 0x10FF00)

/-- Whether a character is a blank of any sort. -/
def isSpace (c : Char) : Bool :=
  c == ' ' || (9 ≤ c.toNat && c.toNat ≤ 13)

/-- Small letters, from a first to a last one, and how far behind the capital ones they are. -/
def cases : List (Nat × Nat × Nat) :=
  [(0x61, 0x7a, 32), (0xe0, 0xf6, 32), (0xf8, 0xfe, 32), (0x3b1, 0x3c1, 32), (0x3c3, 0x3c9, 32),
    (0x430, 0x44f, 32), (0x450, 0x45f, 80)]

/-- A letter as a capital one. -/
def capital (c : Char) : Char :=
  match cases.find? fun r => r.1 ≤ c.toNat && c.toNat ≤ r.2.1 with
  | some r => Char.ofNat (c.toNat - r.2.2)
  | none => c

/-- A letter as a small one. -/
def small (c : Char) : Char :=
  match cases.find? fun r => r.1 ≤ c.toNat + r.2.2 && c.toNat + r.2.2 ≤ r.2.1 with
  | some r => Char.ofNat (c.toNat + r.2.2)
  | none => c

/-- A letter in its other case. -/
def otherCase (c : Char) : Char :=
  if capital c != c then capital c else small c

/-- The kinds of characters that have names. -/
def kinds : List (String × (Char → Bool)) :=
  let wide (c : Char) : Bool := 128 ≤ c.toNat
  let graphic (c : Char) : Bool := (33 ≤ c.toNat && c.toNat ≤ 126) || wide c
  [("alnum", fun c => c.isAlphanum || wide c), ("alpha", fun c => c.isAlpha || wide c),
    ("blank", fun c => c == ' ' || c == '\t'), ("cntrl", fun c => c.toNat < 32 || c.toNat == 127),
    ("digit", Char.isDigit), ("graph", graphic), ("lower", fun c => capital c != c),
    ("print", fun c => c == ' ' || graphic c),
    ("punct", fun c => graphic c && !c.isAlphanum && !wide c), ("space", isSpace),
    ("upper", fun c => small c != c),
    ("xdigit", fun c => c.isDigit || ('a' ≤ c && c ≤ 'f') || ('A' ≤ c && c ≤ 'F')),
    ("word", isWordChar)]

/-- Whether a member of a set is a character. -/
def Member.holds (c : Char) : Member → Bool
  | one d => c == d
  | range low high => low ≤ c && c ≤ high
  | kind name => ((kinds.lookup name).map fun holds => holds c).getD false

/-- Whether a character is in a set. -/
def isIn (folds : Bool) (members : List Member) (c : Char) : Bool :=
  members.any fun m => m.holds c || (folds && m.holds (otherCase c))

/-- An expression that is to begin and end at each line of a text, and to read no line feed unless it
says so. -/
def perLine : Regex → Regex
  | any => among true [.one '\n', .one '\x00']
  | among true members => among true (members ++ [.one '\n'])
  | place .start => place .lineStart
  | place .stop => place .lineStop
  | group n body => group n body.perLine
  | both a b => both a.perLine b.perLine
  | either a b => either a.perLine b.perLine
  | repeated body least most => repeated body.perLine least most
  | e => e

/-! ## Instructions -/

/-- What a thread does. -/
inductive Instruction where
  | read (accepts : Char → Bool)
  | reread (number : Nat)
  | check (p : Place)
  /-- Remembers where the thread is. -/
  | mark (slot : Nat)
  | jump (target : Nat)
  /-- Goes on in two places, preferably in the first one. -/
  | fork (first second : Nat)
  | accept

/-- Whether an expression refers to one of its groups. -/
def rereads : Regex → Bool
  | again _ => true
  | group _ body | repeated body _ _ => body.rereads
  | both a b | either a b => a.rereads || b.rereads
  | _ => false

/-- The number of the last group. -/
def groups : Regex → Nat
  | group n body => max n body.groups
  | repeated body _ _ => body.groups
  | both a b | either a b => max a.groups b.groups
  | _ => 0

/-- Instructions for a number of copies of something, one behind the other. -/
def copies (emit : Array Instruction → Array Instruction) :
    Nat → Array Instruction → Array Instruction
  | 0, code => code
  | n + 1, code => copies emit n (emit code)

/-- Instructions for something that may be left out. -/
def optional (emit : Array Instruction → Array Instruction) (code : Array Instruction) :
    Array Instruction :=
  let start := code.size
  let body := emit (code.push .accept)
  body.setIfInBounds start (.fork (start + 1) body.size)

/-- Instructions for any number of something. -/
def star (emit : Array Instruction → Array Instruction) (code : Array Instruction) :
    Array Instruction :=
  let start := code.size
  let body := (emit (code.push .accept)).push (.jump start)
  body.setIfInBounds start (.fork (start + 1) body.size)

/-- Instructions for something that may occur up to so many times. -/
def upTo (emit : Array Instruction → Array Instruction) :
    Nat → Array Instruction → Array Instruction
  | 0, code => code
  | n + 1, code => optional (fun code => upTo emit n (emit code)) code

/-- Adds the instructions for an expression. -/
def emit (folds : Bool) : Regex → Array Instruction → Array Instruction
  | empty, code => code
  | char c, code => code.push (.read fun d => d == c || (folds && d == otherCase c))
  | any, code => code.push (.read fun c => c != '\x00' && !(0x10FF00 ≤ c.toNat))
  | among negated members, code =>
    code.push (.read fun c => isIn folds members c != negated && !(negated && 0x10FF00 ≤ c.toNat))
  | place p, code => code.push (.check p)
  | group n body, code => ((emit folds body (code.push (.mark (2 * n)))).push (.mark (2 * n + 1)))
  | again n, code => code.push (.reread n)
  | both a b, code => emit folds b (emit folds a code)
  | either a b, code =>
    let start := code.size
    let first := (emit folds a (code.push .accept)).push .accept
    let second := emit folds b first
    (second.setIfInBounds start (.fork (start + 1) first.size)).setIfInBounds (first.size - 1)
      (.jump second.size)
  | repeated body least most, code =>
    let code := copies (emit folds body) least code
    match most with
    | none => star (emit folds body) code
    | some n => upTo (emit folds body) (n - least) code

/-- The instructions for an expression. The whole text that it stands for is remembered too. -/
def program (folds : Bool) (r : Regex) : Array Instruction :=
  (((r.emit folds #[.mark 0]).push (.mark 1)).push .accept)

end Regex

end LintRoster
