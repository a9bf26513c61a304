import LintRoster.Emulator.Invocation
import LintRoster.FileSystem.Listing
import LintRoster.Runner
import LintRoster.Text.Search

/-!
# The smoke check

The smoke check runs the job that builds the roster under an emulator. A preflight lists the jobs
first, to tell an emulator that cannot be used from a job that fails. The run itself is judged by
three criteria in order: its exit code, its log, and the artifacts that it left.
-/

namespace LintRoster.Smoke

/-- Whether, and how strictly, the check runs. -/
inductive Mode where
  /-- The check is skipped. -/
  | disabled
  /-- The check is skipped if the emulator cannot be used. -/
  | opportunistic
  /-- The check fails if the emulator cannot be used. -/
  | required
deriving DecidableEq, Repr, Inhabited

namespace Mode

/-- The mode that the value of the opt-in variable asks for. -/
def ofOptIn (s : EmulatorSettings) (value : Option String) : Mode :=
  if s.isOptIn value then .required else .disabled

/-- The mode for a value of the opt-in variable and a wish to run opportunistically. The variable
wins. -/
def resolve (s : EmulatorSettings) (value : Option String) (opportunistic : Bool) : Mode :=
  match ofOptIn s value with
  | .disabled => if opportunistic then .opportunistic else .disabled
  | mode => mode

end Mode

/-- What a run that meets all criteria shows. -/
structure Report where
  exitCode : Option Int
  artifacts : List Path
  logs : String
deriving DecidableEq

/-- How a check that did not fail ended. -/
inductive Outcome where
  | skipped (reason : String)
  | passed (report : Report)
deriving DecidableEq

/-- How a program ended, in words. -/
def statusText : Option Int → String
  | none => "a signal"
  | some code => "exit code " ++ toString code

/-- Judges a run by its exit code, its log and the artifacts in a directory, in this order. -/
def judge (files : FileSystem) (o : Output) (dir : Path) (signatures : List String) :
    Except Error Report :=
  let logs := o.combined
  if !o.succeeded then .error (.jobFailed ("act job failed with " ++ statusText o.exitCode) logs)
  else
    match signatures.find? fun signature => Text.occursIn signature logs with
    | some signature =>
      .error (.jobFailed ("act job logged forbidden output '" ++ signature ++ "'") logs)
    | none =>
      match files.listFiles dir with
      | .error fault => .error (.io fault)
      | .ok artifacts =>
        if artifacts.isEmpty then
          .error (.jobFailed ("act did not export any artefacts to " ++ dir.text) logs)
        else .ok ⟨o.exitCode, artifacts, logs⟩

/-- What an error in the place of a listing of the jobs says about the emulator. -/
def unlisted (s : Settings) (c : Command) : Error → Error
  | .toolTimeout _ limit =>
    .emulatorUnavailable ("`" ++ c.display ++ "` did not list jobs within " ++
      toString limit.secs ++ " seconds")
  | .toolLaunch _ cause =>
    .emulatorUnavailable ("failed to launch `" ++ s.emulator.program ++ "`: " ++ cause.message)
  | e => e

variable {σ φ : Type} [CommandFault φ]

/-- What the answer to the listing of jobs says about the emulator. -/
def verdict (s : Settings) (c : Command) : Except φ Output → Except Error Unit
  | .error fault => .error (unlisted s c (CommandFault.toError c fault))
  | .ok o =>
    if o.succeeded then .ok ()
    else
      .error (.emulatorUnavailable ("`" ++ c.display ++
        "` could not list jobs; is the container runtime reachable?\n" ++ o.combined))

/-- Finds out whether the emulator can be used. -/
def preflight (r : RunnerWith σ φ) (s : Settings) (w : World σ) : Except Error Unit × World σ :=
  if r.locates w.files s.emulator.program then
    let c := Emulator.listJobs s
    let (reply, w) := w.run r c
    (verdict s c reply, w)
  else (.error (.emulatorUnavailable ("`" ++ s.emulator.program ++ "` was not found on PATH")), w)

/-- The directory for the artifacts of one run. -/
def artifactDir (artifactRoot : Path) (runId : String) : Path :=
  artifactRoot.child ("act-artifacts-" ++ runId)

/-- Runs the job with a directory for its artifacts, and judges the run. -/
def runJob (r : RunnerWith σ φ) (s : Settings) (roster : Roster) (dir : Path) (w : World σ) :
    Except Error Outcome × World σ :=
  let c := Emulator.runJob s roster dir
  match w.run r c with
  | (.error fault, w) => (.error (CommandFault.toError c fault), w)
  | (.ok o, w) => ((judge w.files o dir s.emulator.forbiddenSignatures).map .passed, w)

/-- Makes the directory for the artifacts and runs the job. -/
def runFresh (r : RunnerWith σ φ) (s : Settings) (roster : Roster) (dir : Path) (w : World σ) :
    Except Error Outcome × World σ :=
  match w.files.makeDirs dir with
  | (.error fault, files) => (.error (.io fault), { w with files })
  | (.ok (), files) => runJob r s roster dir { w with files }

/-- The reason why a disabled check is skipped. -/
def disabledReason (s : EmulatorSettings) : String :=
  "set " ++ s.optInVariable ++ "=" ++ s.optInToken ++ " to run act workflow smoke tests"

/-- The outcome that an error of the preflight is. -/
def unusable (mode : Mode) (e : Error) : Except Error Outcome :=
  match mode, e with
  | .opportunistic, .emulatorUnavailable reason => .ok (.skipped reason)
  | _, e => .error e

/-- Runs the smoke check. The run gets a new directory below `artifactRoot`, named by `runId`. -/
def check (r : RunnerWith σ φ) (s : Settings) (mode : Mode) (roster : Roster) (artifactRoot : Path)
    (runId : String) (w : World σ) : Except Error Outcome × World σ :=
  match mode with
  | .disabled => (.ok (.skipped (disabledReason s.emulator)), w)
  | mode =>
    match preflight r s w with
    | (.error e, w) => (unusable mode e, w)
    | (.ok (), w) => runFresh r s roster (artifactDir artifactRoot runId) w

end LintRoster.Smoke
