import LintRoster.Command
import LintRoster.Roster
import LintRoster.Settings

/-!
# Commands for the emulator

The emulator is asked for two things: to list the jobs of the workflow, and to run the configured
job with the roster in the environment and its artifacts exported to a directory. Both commands run
in the root of the workspace.
-/

namespace LintRoster.Emulator

/-- The flag in front of the directory for artifacts. -/
def artifactFlag : String := "--artifact-server-path"

/-- The arguments that every command begins with. -/
def eventArgs (s : Settings) : List String :=
  [s.emulator.event, "-W", s.workflow.path.text]

/-- The command that lists the jobs of the workflow. -/
def listJobs (s : Settings) : Command :=
  ⟨s.emulator.program, eventArgs s ++ ["--list"], s.root, s.emulator.preflightLimit⟩

/-- The arguments that choose the job and its event. -/
def jobArgs (s : Settings) : List String :=
  ["-j", s.workflow.job, "-e", s.emulator.eventPath.text]

/-- The arguments that map runner labels to images. -/
def platformArgs (s : Settings) : List String :=
  s.emulator.platforms.flatMap fun platform => ["-P", platform]

/-- The arguments that fix the axes of the matrix. -/
def matrixArgs (s : Settings) : List String :=
  s.emulator.matrix.toList.flatMap fun (axis, value) => ["--matrix", axis ++ ":" ++ value]

/-- The arguments that put a roster into the environment. -/
def rosterArgs (s : Settings) (roster : Roster) : List String :=
  ["--env", s.workflow.key ++ "=" ++ roster.joined]

/-- The command that runs the configured job. -/
def runJob (s : Settings) (roster : Roster) (artifacts : Path) : Command :=
  ⟨s.emulator.program,
    eventArgs s ++ jobArgs s ++ platformArgs s ++ [artifactFlag, artifacts.text] ++
      s.emulator.extraArgs ++ matrixArgs s ++ rosterArgs s roster,
    s.root, s.emulator.runLimit⟩

end LintRoster.Emulator
