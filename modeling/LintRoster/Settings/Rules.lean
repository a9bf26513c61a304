import LintRoster.Findings
import LintRoster.Settings
import LintRoster.Text.Search

/-!
# The rules of settings

Each section of the settings has rules of its own. `Settings.findings` puts the findings of all
sections together, in the order of the sections.
-/

namespace LintRoster

namespace WorkflowSettings

/-- What is wrong with the settings of the workflow. -/
def findings (s : WorkflowSettings) : Findings :=
  (((Findings.ofSection "workflow").requireText "path" s.path.text).requireText "job" s.job)
    |>.requireText "key" s.key

end WorkflowSettings

namespace WorkspaceSettings

/-- What is wrong with the settings of the workspace. -/
def findings (s : WorkspaceSettings) : Findings :=
  ((Findings.ofSection "workspace").requireText "cargo" s.buildTool)
    |>.requireSeconds "metadata_timeout_secs" s.metadataSeconds

end WorkspaceSettings

namespace CratePolicy

/-- The message about a name that is both required and forbidden. -/
def conflict (name : String) : String :=
  "required and forbidden both name '" ++ name ++ "'"

/-- What is wrong with a policy. -/
def findings (p : CratePolicy) : Findings :=
  (p.required.filter p.forbidden.contains).foldl (fun f name => f.addError (conflict name))
    (.ofSection "policy")

end CratePolicy

namespace EmulatorSettings

/-- The message about a platform without an image. -/
def platformFault (platform : String) : String :=
  "platforms entry '" ++ platform ++ "' must have the form <label>=<image>"

/-- Whether a platform names an image after its label. -/
def isPlatform (platform : String) : Bool :=
  platform.toList.contains '='

/-- Records the warnings about settings that are usable but hardly meant. -/
def addWarnings (s : EmulatorSettings) (f : Findings) : Findings :=
  let f :=
    if s.preflightSeconds ≥ s.runSeconds then
      f.addWarning "preflight_timeout_secs is not shorter than run_timeout_secs"
    else f
  if s.forbiddenSignatures.isEmpty then
    f.addWarning "forbidden_signatures is empty, only exit code and artifacts are checked"
  else f

/-- What is wrong with the settings of the emulator. -/
def findings (s : EmulatorSettings) : Findings :=
  let f := ((Findings.ofSection "emulator").requireText "binary" s.program).requireText
    "opt_in_var" s.optInVariable
  let f := (f.requireSeconds "preflight_timeout_secs" s.preflightSeconds).requireSeconds
    "run_timeout_secs" s.runSeconds
  (s.platforms.filter fun platform => !isPlatform platform).foldl
    (fun f platform => f.addError (platformFault platform)) (s.addWarnings f)

end EmulatorSettings

namespace Settings

/-- The findings of each section. -/
def sectionFindings (s : Settings) : List Findings :=
  [s.workflow.findings, s.workspace.findings, s.policy.findings, s.emulator.findings]

/-- What is wrong with the settings. -/
def findings (s : Settings) : Findings :=
  s.sectionFindings.foldl Findings.merge {}

end Settings

end LintRoster
