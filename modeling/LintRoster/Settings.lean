import LintRoster.NameMap
import LintRoster.Path
import LintRoster.Span
import LintRoster.Workflow

/-!
# Settings

The settings of the checks in four sections, with a default for every setting, and the root of the
workspace that they are for.
-/

namespace LintRoster

/-- Which workflow and declaration to read. The path is below the root of the workspace. -/
structure WorkflowSettings where
  path : Path := ⟨".github/workflows/rolling-release.yml"⟩
  job : String := "build-lints"
  key : String := "LINT_CRATES"
  order : LookupOrder := .rootFirst
deriving DecidableEq, Inhabited

/-- How to ask the build tool about the workspace. -/
structure WorkspaceSettings where
  buildTool : String := "cargo"
  metadataSeconds : Nat := 120
deriving DecidableEq, Inhabited

/-- Names that must be declared and names that must not. -/
structure CratePolicy where
  required : List String := []
  forbidden : List String := []
deriving DecidableEq, Inhabited

/-- The names of the matrix axes that are fixed for an emulated run, with their values. -/
def defaultMatrix : NameMap String :=
  .ofList [("os", "ubuntu-latest"), ("target", "x86_64-unknown-linux-gnu")]

/-- What a build tool logs when it is asked for a package outside of the workspace. -/
def boundarySignature : String :=
  "cannot specify features for packages outside of workspace"

/-- How to drive the emulator of workflows. The path of the event is below the root of the
workspace. -/
structure EmulatorSettings where
  program : String := "act"
  event : String := "workflow_dispatch"
  eventPath : Path :=
    ⟨"tests/workflows/fixtures/workflow_dispatch.rolling-release.event.json"⟩
  platforms : List String := ["ubuntu-latest=catthehacker/ubuntu:act-latest"]
  matrix : NameMap String := defaultMatrix
  extraArgs : List String := ["--json", "--bind"]
  preflightSeconds : Nat := 60
  runSeconds : Nat := 3600
  forbiddenSignatures : List String := [boundarySignature]
  optInVariable : String := "ACT_WORKFLOW_TESTS"
  optInToken : String := "1"
deriving DecidableEq, Inhabited

/-- The settings of the checks of one workspace. -/
structure Settings where
  root : Path := ⟨""⟩
  workflow : WorkflowSettings := {}
  workspace : WorkspaceSettings := {}
  policy : CratePolicy := {}
  emulator : EmulatorSettings := {}
deriving DecidableEq

instance : Inhabited Settings := ⟨{}⟩

namespace WorkflowSettings

/-- What to look up in the workflow. -/
def lookup (s : WorkflowSettings) : Lookup :=
  ⟨s.key, s.job, s.order⟩

end WorkflowSettings

namespace WorkspaceSettings

/-- How long the build tool may take. -/
def metadataLimit (s : WorkspaceSettings) : Span :=
  .seconds s.metadataSeconds

end WorkspaceSettings

namespace EmulatorSettings

/-- How long the emulator may take to list jobs. -/
def preflightLimit (s : EmulatorSettings) : Span :=
  .seconds s.preflightSeconds

/-- How long the emulator may take to run a job. -/
def runLimit (s : EmulatorSettings) : Span :=
  .seconds s.runSeconds

/-- Whether a value of the opt-in variable asks for a run: only the exact token does. -/
def isOptIn (s : EmulatorSettings) (value : Option String) : Bool :=
  value == some s.optInToken

end EmulatorSettings

namespace Settings

/-- The default settings of a workspace. -/
def new (root : Path) : Settings :=
  { root }

/-- The file of the workflow. -/
def workflowPath (s : Settings) : Path :=
  s.root.join s.workflow.path

end Settings

end LintRoster
