import LintRoster.Machine.Task

/-!
# Statements of the shell

A statement is one command of a script, simple or compound. Its words are lists of parts: text, or
an expansion that text takes the place of when the word is used. Parts know whether they stand in
quotes. All texts are byte texts.
-/

namespace LintRoster.Shell

mutual

/-- A part of a word. -/
inductive Part where
  | text (s : String) (quoted : Bool)
  | parameter (name : String) (change : Change) (quoted : Bool)
  | command (body : Statement) (quoted : Bool)
  | arithmetic (body : List Part) (quoted : Bool)

/-- What happens to the value of a parameter. -/
inductive Change where
  | keep
  | length
  | orDefault (evenIfEmpty : Bool) (word : List Part)
  | orAssign (evenIfEmpty : Bool) (word : List Part)
  | orFail (evenIfEmpty : Bool) (word : List Part)
  | ifSet (notIfEmpty : Bool) (word : List Part)
  | cutEnd (longest : Bool) (pattern : List Part)
  | cutStart (longest : Bool) (pattern : List Part)
  | malformed

/-- Where a redirection leads. -/
inductive Redirect where
  | file (stream : Nat) (access : Machine.Access) (path : List Part)
  /-- Connects a stream to another one, or closes it. -/
  | copy (stream : Nat) (source : Option Nat)
  /-- Connects a stream to the one that a word names. -/
  | copyNamed (stream : Nat) (source : List Part)
  | document (stream : Nat) (body : List Part)

/-- A command of a script. Lines are those that faults are reported for. -/
inductive Statement where
  | nothing
  | simple (line : Nat) (assigns : List (String × List Part)) (words : List (List Part))
      (redirects : List Redirect)
  | pipeline (stages : List Statement) (inBackground : Bool)
  | inBackground (line : Nat) (body : Statement) (redirects : List Redirect)
  | negated (s : Statement)
  | both (first second : Statement)
  | either (first second : Statement)
  | sequence (first second : Statement)
  | conditional (test yes no : Statement)
  | loop (untilTrue : Bool) (test body : Statement)
  | each (line : Nat) (name : String) (words : List (List Part)) (body : Statement)
  | select (line : Nat) (subject : List Part) (arms : List (List (List Part) × Statement))
  | subshell (line : Nat) (body : Statement) (redirects : List Redirect)
  | redirected (line : Nat) (body : Statement) (redirects : List Redirect)
  | define (line : Nat) (name : String) (body : Statement)

end

instance : Inhabited Statement :=
  ⟨.nothing⟩

/-- A word as it is written. -/
abbrev Word := List Part

namespace Word

/-- The characters that end a word outside of quotes. -/
def isMeta (c : Char) : Bool :=
  [' ', '\t', '\n', ';', '&', '|', '<', '>', '(', ')'].contains c

/-- The characters that may begin a name. -/
def isNameStart (c : Char) : Bool :=
  c.isAlpha || c == '_'

/-- The characters of names. -/
def isNameChar (c : Char) : Bool :=
  c.isAlphanum || c == '_'

/-- Whether a text is the name of a variable. -/
def isName (s : String) : Bool :=
  s.toList.head?.any isNameStart && s.toList.all isNameChar

/-- The parameters whose name is one sign. -/
def isSpecial (c : Char) : Bool :=
  ['@', '*', '#', '?', '-', '$', '!'].contains c

/-- The text of a word that is written without quotes and expansions. -/
def bare? : Word → Option String
  | [.text s false] => some s
  | _ => none

/-- The name in front of an equals sign, and what follows the sign. -/
def splitAssignment? (cs : List Char) : Option (String × List Char) :=
  let name := cs.takeWhile isNameChar
  match name, cs.dropWhile isNameChar with
  | c :: _, '=' :: value => if isNameStart c then some (String.ofList name, value) else none
  | _, _ => none

/-- The name and the value of a word that assigns to a variable. -/
def assignment? : Word → Option (String × Word)
  | .text s false :: rest =>
    (splitAssignment? s.toList).map fun (name, value) =>
      (name, if value.isEmpty then rest else .text (String.ofList value) false :: rest)
  | _ => none

end Word

end LintRoster.Shell
