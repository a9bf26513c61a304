import LintRoster.Error
import LintRoster.Roster
import LintRoster.Text.Blank
import LintRoster.Workflow.Reading

/-!
# Extracting rosters from workflows

A declared value names crates in one of two forms: a sequence whose items are one name each, or a
scalar whose words are the names. `Yaml.Value.names?` reads both, and the extraction looks the value
up, reads it and refuses a declaration without names.
-/

namespace LintRoster

/-- The shape of a value that cannot name crates. -/
inductive Shape where
  | mapping
  | sequenceOfCollections
  | collection
deriving DecidableEq, Repr

namespace Shape

/-- The text of a shape. -/
def text : Shape → String
  | mapping => "a mapping"
  | sequenceOfCollections => "a sequence of collections"
  | collection => "a collection"

end Shape

namespace Yaml.Value

/-- The text of a scalar, under any tags. Nothing has the empty text. -/
def scalarText? : Value → Option String
  | .null => some ""
  | .bool b => some (if b then "true" else "false")
  | .number n => some n.text
  | .string s => some s
  | .tagged _ v => v.scalarText?
  | .seq _ | .map _ => none

/-- The texts that the items of a sequence have, if all are scalars. -/
def itemTexts? : List Value → Option (List String)
  | [] => some []
  | v :: vs =>
    match v.scalarText? with
    | none => none
    | some text => (itemTexts? vs).map (text :: ·)

/-- The names in the items of a sequence: their texts without surrounding blanks, as far as
anything is left. -/
def itemNames (texts : List String) : List String :=
  (texts.map Text.trim).filter (· != "")

/-- The names that a value declares, or the shape that keeps it from naming any. -/
def names? : Value → Except Shape (List String)
  | .seq items =>
    match itemTexts? items with
    | none => .error .sequenceOfCollections
    | some texts => .ok (itemNames texts)
  | .map _ => .error .mapping
  | .tagged _ v => v.names?
  | v =>
    match v.scalarText? with
    | none => .error .collection
    | some text => .ok (Text.words text)

end Yaml.Value

namespace Roster

/-- The roster that a value declares in a scope. -/
def ofValue (path : Path) (key : String) (scope : Scope) (value : Yaml.Value) :
    Except Error Roster :=
  match value.names? with
  | .error shape => .error (.unsupportedDeclaration path key scope.text shape.text)
  | .ok names =>
    if h : names = [] then .error (.emptyDeclaration path key) else .ok ⟨names, scope, h⟩

/-- The roster of a workflow. The path only names the workflow in errors. -/
def ofWorkflow (path : Path) (lookup : Lookup) (w : Workflow) : Except Error Roster :=
  match w.find? lookup with
  | none => .error (.missingDeclaration path lookup.key lookup.job)
  | some (scope, value) => ofValue path lookup.key scope value

end Roster

namespace Workflow

/-- Reads a workflow from the text of a file, which is named in errors. -/
def parse (text : String) (path : Path) : Except Error Workflow :=
  match ofText? text with
  | .error fault => .error (.workflowUnreadable path fault.message)
  | .ok w => .ok w

end Workflow

namespace Roster

/-- Extracts the roster from the text of a workflow file. -/
def extract (text : String) (path : Path) (lookup : Lookup) : Except Error Roster :=
  match Workflow.parse text path with
  | .error e => .error e
  | .ok w => ofWorkflow path lookup w

/-- Reads a workflow file and extracts its roster. -/
def load (fs : FileSystem) (path : Path) (lookup : Lookup) : Except Error Roster :=
  match fs.readText path with
  | .error fault => .error (.io fault)
  | .ok text => extract text path lookup

end Roster

end LintRoster
