import LintRoster.Shell.Pattern

/-!
# Fields

A word that was expanded is a list of stretches: some were written, others took the place of an
expansion, and only the latter fall apart at separators. `Field.split` cuts stretches into fields.
Blanks at the ends of a field are dropped together, other separators end one field each.
-/

namespace LintRoster.Shell

/-- A unit of an expanded word. -/
inductive Atom where
  | sign (s : Sign)
  /-- A place where quotes stood. -/
  | mark
  /-- The boundary between two arguments. -/
  | border
deriving DecidableEq, Repr

/-- Where a stretch falls apart. -/
inductive Splits where
  | never
  | atSeparators
  | atBorders
deriving DecidableEq, Repr

/-- A stretch of an expanded word. -/
structure Stretch where
  atoms : List Atom
  splits : Splits

namespace Atom

/-- The characters that quotes protect. -/
def guarded : List Char :=
  ['!', '*', '?', '[', ']', '=', '~', ':', '/', '-', '\\']

/-- The atom of a character. -/
def ofChar (quoted : Bool) (c : Char) : Atom :=
  .sign ⟨c, !(quoted && guarded.contains c)⟩

/-- The atoms of a text. -/
def ofText (quoted : Bool) (s : String) : List Atom :=
  s.toList.map (ofChar quoted)

/-- The sign of an atom. -/
def sign? : Atom → Option Sign
  | sign s => some s
  | _ => none

/-- The signs among atoms. -/
def signs (atoms : List Atom) : List Sign :=
  atoms.filterMap sign?

/-- The text of atoms. -/
def text (atoms : List Atom) : String :=
  String.ofList ((signs atoms).map Sign.char)

/-- Whether an atom may end a field, where `borders` says that only borders do. -/
def ends (separators : List Char) (borders : Bool) : Atom → Bool
  | sign s => !borders && separators.contains s.char
  | mark => false
  | border => true

/-- Whether an atom, if it may end a field, does so together with its neighbours. -/
def isBlank : Atom → Bool
  | sign s => [' ', '\t', '\n'].contains s.char
  | mark => false
  | border => true

end Atom

/-- Fields that are being cut. -/
structure Splitter where
  /-- The present field, last atom first. -/
  field : List Atom
  /-- The fields before it, last first. -/
  fields : List (List Atom)
  /-- How many more fields there may be, if that is limited. Zero stands for none besides the present
  one. -/
  limit : Option Nat
  /-- Whether blanks just ended a field. -/
  isSpaced : Bool
  /-- How much of the last field counts, if not all of it. -/
  kept : Option Nat
  /-- Whether the last stretch falls apart at borders. -/
  borders : Bool

namespace Splitter

/-- Adds an atom to the present field. -/
def push (a : Atom) (s : Splitter) : Splitter :=
  { s with field := a :: s.field }

/-- Ends the present field. -/
def cut (s : Splitter) : Splitter :=
  { s with fields := s.field.reverse :: s.fields, field := [], limit := s.limit.map (· - 1) }

/-- Adds an atom to the last field that there may be. Separators count if more follows. -/
def stepLast (ends blank : Bool) (a : Atom) (s : Splitter) : Splitter :=
  if ends && blank then { s.push a with kept := s.kept.or (some s.field.length) }
  else { s.push a with kept := if ends && s.isSpaced then s.kept else none, isSpaced := false }

/-- Takes an atom of a stretch that falls apart. `after` says whether the stretch before it fell apart
at borders. -/
def step (separators : List Char) (borders after : Bool) (s : Splitter) (a : Atom) : Splitter :=
  let ends := a.ends separators borders
  let blank := ends && a.isBlank
  if s.limit == some 0 then s.stepLast ends blank a
  else if s.isSpaced then
    if blank then s
    else if ends then { s with isSpaced := false }
    else { s.push a with isSpaced := false }
  else if ends then
    let spaced := !(after || borders) && blank
    if s.field.isEmpty && spaced then s
    else if s.limit == some 1 then
      { s.push a with limit := some 0, kept := some s.field.length, isSpaced := spaced }
    else { s.cut with isSpaced := spaced }
  else s.push a

/-- Takes a stretch. -/
def takeStretch (separators : List Char) (s : Splitter) (x : Stretch) : Splitter :=
  match x.splits with
  | .never => { s with field := x.atoms.reverse ++ s.field }
  | splits =>
    let borders := splits == .atBorders
    x.atoms.foldl (step separators borders s.borders) { s with isSpaced := false, borders }

/-- All fields, after the last stretch. -/
def finish (s : Splitter) : List (List Atom) :=
  let last := s.field.reverse
  let kept := if s.borders then last else last.take (s.kept.getD last.length)
  if s.borders || !kept.isEmpty then (kept :: s.fields).reverse else s.fields.reverse

end Splitter

/-- Cuts stretches into fields. There are no more of them than the limit allows. -/
def splitFields (separators : List Char) (limit : Option Nat) (xs : List Stretch) :
    List (List Atom) :=
  (xs.foldl (Splitter.takeStretch separators) ⟨[], [], limit, false, none, false⟩).finish

end LintRoster.Shell
