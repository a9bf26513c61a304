import LintRoster.FileSystem
import LintRoster.Span

/-!
# Errors

An error is a cause: what went wrong and the data that tells one case from another. The wording of
every cause is in `Error.message` and nowhere else.
-/

namespace LintRoster

/-- Why a configuration cannot be used. -/
inductive ConfigFault where
  /-- The text is no configuration. -/
  | unreadable (reason : String)
  /-- The text of a file is no configuration. -/
  | unreadableFile (path : Path) (reason : String)
  /-- Some settings break a rule; each is described by one entry. -/
  | invalid (entries : List String)
deriving DecidableEq, Repr

/-- Why a check did not pass. -/
inductive Error where
  /-- The key is in none of the scopes that were searched. -/
  | missingDeclaration (path : Path) (key job : String)
  /-- The key is there and holds no names. -/
  | emptyDeclaration (path : Path) (key : String)
  /-- The key holds a value of a shape that cannot name crates. -/
  | unsupportedDeclaration (path : Path) (key scope shape : String)
  /-- Declared names that are not packages of the workspace. -/
  | unresolved (missing : List String)
  /-- Rules of the crate policy that the declaration breaks. -/
  | policyViolated (entries : List String)
  /-- The emulator is missing or cannot list the workflow. -/
  | emulatorUnavailable (reason : String)
  /-- The emulated job ran and did not meet the criteria of success. -/
  | jobFailed (reason logs : String)
  /-- A program took longer than its command allows. -/
  | toolTimeout (program : String) (limit : Span)
  /-- A program could not be started. -/
  | toolLaunch (program : String) (cause : FileFault)
  /-- A program ended without success. -/
  | toolFailed (program : String) (exitCode : Option Int) (stderr : String)
  /-- A workflow file is no workflow. -/
  | workflowUnreadable (path : Path) (reason : String)
  /-- The metadata of the workspace cannot be interpreted. -/
  | metadataUnreadable (reason : String)
  /-- The configuration cannot be used. -/
  | config (fault : ConfigFault)
  /-- A file or directory could not be used. -/
  | io (fault : FileFault)
deriving DecidableEq, Repr

namespace ConfigFault

/-- The text that stands before every fault of a configuration. -/
def lead : String := "configuration error: "

/-- The text of a fault of a configuration. -/
def message : ConfigFault → String
  | unreadable reason => lead ++ reason
  | unreadableFile path reason => lead ++ path.text ++ ": " ++ lead ++ reason
  | invalid entries =>
    lead ++ toString entries.length ++ " invalid setting(s): " ++ String.intercalate "; " entries

end ConfigFault

namespace Error

/-- The text that stands before the names that are not packages. -/
def unresolvedLead : String :=
  "workflow declares lint crates that are not workspace packages: "

/-- The text of an error. -/
def message : Error → String
  | missingDeclaration path key job =>
    path.text ++ " does not declare " ++ key ++ " at the workflow root or under job `" ++ job ++ "`"
  | emptyDeclaration path key => path.text ++ " declares " ++ key ++ " without any crate names"
  | unsupportedDeclaration path key scope shape =>
    path.text ++ " declares " ++ key ++ " in " ++ scope ++ " as " ++ shape ++
      "; expected a string or a sequence of names"
  | unresolved missing => unresolvedLead ++ String.intercalate ", " missing
  | policyViolated entries =>
    "lint crate policy violated: " ++ String.intercalate "; " entries
  | emulatorUnavailable reason => "workflow emulator is unavailable: " ++ reason
  | jobFailed reason logs => reason ++ ":\n" ++ logs
  | toolTimeout program limit => "`" ++ program ++ "` timed out after " ++ limit.text
  | toolLaunch program cause => "failed to launch `" ++ program ++ "`: " ++ cause.message
  | toolFailed program exitCode stderr =>
    "`" ++ program ++ "` exited with status " ++ (exitCode.map toString).getD "signal" ++ ":\n" ++
      stderr
  | workflowUnreadable path reason =>
    "failed to parse workflow " ++ path.text ++ ": " ++ reason
  | metadataUnreadable reason => "failed to parse workspace metadata: " ++ reason
  | config fault => fault.message
  | io fault => "IO error: " ++ fault.message

end Error

end LintRoster
