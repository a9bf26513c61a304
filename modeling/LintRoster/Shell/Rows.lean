/-!
# Tables with rows

A shell keeps names in tables with rows. Each name belongs to a row, and names are listed row by row.
-/

namespace LintRoster.Shell.Rows

/-- The row of a name in a table with a number of rows. -/
def row (rows : Nat) (name : String) : Nat :=
  let codes := name.toList.map Char.toNat
  (codes.headD 0 * 16 + codes.foldl Nat.add 0) % rows

/-- Entries in the order of a table. -/
def ordered {α : Type} (rows : Nat) (entries : List (String × α)) : List (String × α) :=
  entries.mergeSort fun a b => row rows a.1 ≤ row rows b.1

/-- Names in the order of a table. -/
def names (rows : Nat) (ns : List String) : List String :=
  ns.mergeSort fun a b => row rows a ≤ row rows b

/-- How many rows the tables of variables and aliases have. -/
def variableCount : Nat :=
  39

/-- How many rows the table of files has. -/
def fileCount : Nat :=
  31

end LintRoster.Shell.Rows
