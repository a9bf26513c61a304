import LintRoster.Command
import LintRoster.Error
import LintRoster.Json.Reader
import LintRoster.NameSet

/-!
# The packages of a workspace

The names of the packages that a workspace manages, as its metadata reports them. A document of
metadata is read as a whole: one entry without a proper name makes it unreadable.
-/

namespace LintRoster.Packages

/-- The name of one package entry. -/
def entryName (entry : Json) : Except Json.Fault String :=
  match entry.soleMember "name" with
  | .error fault => .error fault
  | .ok name => name.text

/-- The names of package entries, in their order. -/
def entryNames : List Json → Except Json.Fault (List String)
  | [] => .ok []
  | entry :: entries =>
    match entryName entry with
    | .error fault => .error fault
    | .ok name =>
      match entryNames entries with
      | .error fault => .error fault
      | .ok names => .ok (name :: names)

/-- The names of the packages in a document of metadata. -/
def ofJson (document : Json) : Except Json.Fault NameSet :=
  match document.soleMember "packages" with
  | .error fault => .error fault
  | .ok packages =>
    match packages.items with
    | .error fault => .error fault
    | .ok entries => (entryNames entries).map NameSet.ofList

/-- The names of the packages in the text of a document of metadata. -/
def ofMetadata (text : String) : Except Error NameSet :=
  match Json.ofText? text with
  | .error fault => .error (.metadataUnreadable fault.message)
  | .ok document =>
    match ofJson document with
    | .error fault => .error (.metadataUnreadable fault.message)
    | .ok names => .ok names

/-- The command that asks the build tool for the metadata of a workspace. -/
def metadataCommand (buildTool : String) (workspace : Path) (limit : Span) : Command :=
  (Command.new buildTool workspace limit).addArgs ["metadata", "--format-version", "1", "--no-deps"]

end LintRoster.Packages
