import LintRoster.Toml.Statement

/-!
# TOML documents

A document is the table that its statements build. A header opens a table once: one that a path only
passed through may be opened later, while a table with a header or from dotted keys may not. What
follows a header is assigned within the table that the header names.
-/

namespace LintRoster.Toml

/-- A document in the making: its entries, and the path of the table that is open. -/
structure Draft where
  entries : Entries
  current : List String

namespace Draft

/-- Opens the table under a name: a new one, or one that was only passed through. -/
def openIn (name : String) (es : Entries) : Except Fault Entries :=
  match es.get? name with
  | none => .ok (es.add name (.table .header []))
  | some (.table .passed sub) => .ok (es.replace name (.table .header sub))
  | some _ => .error (.redefinition name)

/-- Adds a table to the array of tables under a name, which may be a new one. -/
def addIn (name : String) (es : Entries) : Except Fault Entries :=
  match es.get? name with
  | none => .ok (es.add name (.array true [.table .header []]))
  | some (.array true items) =>
    .ok (es.replace name (.array true (items ++ [.table .header []])))
  | some _ => .error (.redefinition name)

/-- Carries out one statement. -/
def apply (d : Draft) : Statement → Except Fault Draft
  | .assign path name item =>
    (Item.enter false (fun _ es => Item.assign path name item es) d.current .header d.entries).map
      fun es => { d with entries := es }
  | .openTable path name =>
    (Item.enter false (fun _ es => openIn name es) path .header d.entries).map
      fun es => ⟨es, path ++ [name]⟩
  | .addTable path name =>
    (Item.enter false (fun _ es => addIn name es) path .header d.entries).map
      fun es => ⟨es, path ++ [name]⟩

/-- Carries out statements one after the other. -/
def applyAll (d : Draft) : List Statement → Except Fault Draft
  | [] => .ok d
  | s :: rest =>
    match d.apply s with
    | .error e => .error e
    | .ok d => d.applyAll rest

end Draft

/-- The entries of the document that a text holds. -/
def document? (text : String) : Except Fault Entries :=
  match statements? text with
  | .error e => .error e
  | .ok ss => (Draft.applyAll ⟨[], []⟩ ss).map Draft.entries

end LintRoster.Toml
