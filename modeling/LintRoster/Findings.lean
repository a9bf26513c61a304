import LintRoster.Error
import LintRoster.Text.Blank

/-!
# Findings

Findings are what is wrong with some settings: errors, which rule a check out, and warnings. Each is
recorded under the name of a section and carries that name from then on, also when the findings of
sections are put together.
-/

namespace LintRoster

/-- The errors and warnings that were recorded under the name of a section. -/
structure Findings where
  heading : String := ""
  errors : List String := []
  warnings : List String := []
deriving DecidableEq, Repr, Inhabited

namespace Findings

/-- The findings of a section in which nothing was found yet. -/
def ofSection (name : String) : Findings :=
  { heading := name }

/-- Whether there is no error. -/
def isValid (f : Findings) : Bool :=
  f.errors.isEmpty

/-- A message under the name of the section, if it has one. -/
def qualify (f : Findings) (message : String) : String :=
  if f.heading == "" then message else f.heading ++ "." ++ message

/-- Records an error. -/
def addError (f : Findings) (message : String) : Findings :=
  { f with errors := f.errors ++ [f.qualify message] }

/-- Records a warning. -/
def addWarning (f : Findings) (message : String) : Findings :=
  { f with warnings := f.warnings ++ [f.qualify message] }

/-- Records an error if a text is blank. -/
def requireText (f : Findings) (field value : String) : Findings :=
  if Text.isBlankText value then f.addError (field ++ " cannot be empty") else f

/-- Records an error if a number of seconds is zero. -/
def requireSeconds (f : Findings) (field : String) (seconds : Nat) : Findings :=
  if seconds == 0 then f.addError (field ++ " must be at least 1") else f

/-- Adds the findings of another section at the end, as they are. -/
def merge (f other : Findings) : Findings :=
  { f with
    errors := f.errors ++ other.errors
    warnings := f.warnings ++ other.warnings }

/-- The warnings, or the error that lists everything that rules a check out. -/
def result (f : Findings) : Except Error (List String) :=
  if f.isValid then .ok f.warnings else .error (.config (.invalid f.errors))

end Findings

end LintRoster
