import LintRoster.Workflow

/-!
# Rosters

A roster is the list of lint crates that a workflow declares, in the order of the declaration and
with repetitions, together with the scope that declares them. It is never empty.
-/

namespace LintRoster

/-- The declared lint crates. -/
@[ext]
structure Roster where
  names : List String
  scope : Scope
  names_ne_nil : names ≠ []
deriving DecidableEq

namespace Roster

/-- How many names are declared, repetitions included. -/
def size (r : Roster) : Nat :=
  r.names.length

/-- Whether a name is declared. -/
def contains (r : Roster) (name : String) : Bool :=
  r.names.contains name

/-- The names with one space between each two. -/
def joined (r : Roster) : String :=
  String.intercalate " " r.names

end Roster

end LintRoster
