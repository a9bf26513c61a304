import LintRoster.Regex.Matching

/-!
# Scripts for editing lines

A script is a list of commands. Each has a selection, which tells the lines that it is for, and an
action. Lines are edited in the pattern space, and kept in the hold space.
-/

namespace LintRoster.Machine.Tool.Sed

/-- An expression that is sought. Without one it is the one that was sought last. -/
abbrev Sought :=
  Option Regex.Matcher

/-- What a line is told by. -/
inductive Address where
  | line (number : Nat)
  /-- Every so many lines from a first one on. -/
  | every (first step : Nat)
  | last
  | holding (sought : Sought)

/-- The end of a range. -/
inductive Bound where
  | address (a : Address)
  /-- So many lines after the first one. -/
  | after (count : Nat)
  /-- The next line after the first one whose number is a multiple. -/
  | multiple (factor : Nat)

/-- The lines that a command is for. -/
structure Selection where
  first : Option Address
  second : Option Bound
  negated : Bool

/-- What becomes of letters. -/
inductive Casing where
  | kept
  | capital
  | small
deriving DecidableEq

/-- A piece of what is put in the place of a match. -/
inductive Piece where
  | text (cs : List Char)
  /-- The text of a group, or of the whole match. -/
  | group (number : Nat)
  /-- The casing of all that follows. -/
  | casing (c : Casing)
  /-- The casing of the next letter. -/
  | casingOnce (c : Casing)

/-- Where text is written. -/
inductive Target where
  | edited
  | output
  | complaints
  | file (name : String)
deriving DecidableEq

/-- What a substitution does. -/
structure Substitution where
  sought : Sought
  pieces : List Piece
  /-- The first match that is replaced. -/
  number : Nat
  /-- Whether the matches after that one are replaced too. -/
  everywhere : Bool
  prints : Bool
  /-- Whether the outcome is carried out as a command, whose output it becomes. -/
  evaluates : Bool
  target : Option Target

/-- When a command goes on elsewhere. -/
inductive Jump where
  | always
  | ifReplaced
  | unlessReplaced
deriving DecidableEq

/-- What a command does. -/
inductive Action where
  /-- Begins a block, whose commands end in front of a place. -/
  | block (stop : Nat)
  | nothing
  | append (text : List UInt8)
  | insert (text : List UInt8)
  | change (text : List UInt8)
  | jump (when : Jump) (label : String)
  | delete
  | deleteLine
  | evaluate (command : List UInt8)
  | showName
  | takeHeld
  | addHeld
  | hold
  | addToHeld
  | exchange
  | list (width : Option Nat)
  | next
  | addNext
  | print
  | printLine
  | quit (prints : Bool) (status : Nat)
  | readFile (name : String)
  | readLine (name : String)
  | substitute (s : Substitution)
  | write (target : Target)
  | writeLine (target : Target)
  | transliterate (pairs : List (Char × Char))
  | number
  | clear

/-- A command. -/
structure Command where
  selection : Selection
  action : Action

/-- A script. -/
structure Script where
  commands : Array Command
  /-- The places of labels. -/
  labels : List (String × Nat)
  /-- Whether lines are printed only where the script says so. -/
  isQuiet : Bool

/-- The target that a command writes to. -/
def Action.target? : Action → Option Target
  | write t | writeLine t => some t
  | substitute s => s.target
  | _ => none

/-- The names of the files that a script writes. -/
def Script.written (s : Script) : List String :=
  let names := s.commands.toList.filterMap fun c =>
    match c.action.target? with
    | some (.file name) => some name
    | _ => none
  names.eraseDups

/-- The last label that a command goes on at and that is nowhere. -/
def Script.missingLabel? (s : Script) : Option String :=
  s.commands.toList.reverse.findSome? fun c =>
    match c.action with
    | .jump _ label => if label == "" || (s.labels.lookup label).isSome then none else some label
    | _ => none

end LintRoster.Machine.Tool.Sed
