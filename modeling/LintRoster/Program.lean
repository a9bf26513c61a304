import LintRoster.CommandLine
import LintRoster.Contract
import LintRoster.Settings.Reading
import LintRoster.Settings.Rules
import LintRoster.Smoke

/-!
# The program

`Program.run` does what an errand asks for: it loads the settings and refuses those that break a
rule, and only then reads the workflow and runs commands. What it printed and the error that stopped
it, if any, make up its ending.
-/

namespace LintRoster

/-- What a run of the program finds around it: the environment, and the names that were drawn for the
directory of the artifacts and for a temporary directory. -/
structure Surroundings where
  environment : NameMap String
  runId : String
  temporaryId : String

namespace Surroundings

/-- The text after a name and an equals sign, if an entry of an environment begins with them. An
entry is a name, an equals sign and a value, so that a name with an equals sign in it can begin
one. -/
def valueIn? (name : String) (entry : String × String) : Option String :=
  let lead := name.toList ++ ['=']
  let text := entry.1.toList ++ '=' :: entry.2.toList
  if lead.isPrefixOf text then some (String.ofList (text.drop lead.length)) else none

/-- The value of a name in the environment. The empty name has none. -/
def value? (env : Surroundings) (name : String) : Option String :=
  if name == "" then none else env.environment.toList.findSome? (valueIn? name)

end Surroundings

/-- How a run of the program ended: what it printed, and the error that stopped it. -/
structure Ending where
  stdout : String
  failure : Option Error
deriving DecidableEq

namespace Ending

/-- The ending of a run that was stopped before it printed anything. -/
def failed (e : Error) : Ending :=
  ⟨"", some e⟩

/-- The ending of a run that printed something and was not stopped. -/
def printed (text : String) : Ending :=
  ⟨text, none⟩

/-- The exit code of the program. -/
def exitCode (e : Ending) : Nat :=
  if e.failure.isSome then 1 else 0

/-- What the program writes about the error that stopped it. -/
def stderr (e : Ending) : String :=
  match e.failure with
  | none => ""
  | some failure => failure.message ++ "\n"

end Ending

namespace Program

variable {σ : Type}

/-- Lines of text, each with its line feed. -/
def lines (texts : List String) : String :=
  String.join (texts.map (· ++ "\n"))

/-- The root of the workspace: the one that was asked for, or else the current directory. -/
def workspaceRoot (q : Errand) (files : FileSystem) : Path :=
  q.workspace.getD (FileSystem.absolute files.cwd)

/-- The settings that an errand leads to. -/
def loadSettings (q : Errand) (files : FileSystem) : Except Error Settings :=
  match q.settingsFile with
  | some path => Settings.loadFile files (workspaceRoot q files) path
  | none => Settings.load files (workspaceRoot q files)

/-- The settings that an errand leads to, if they break no rule. -/
def usableSettings (q : Errand) (files : FileSystem) : Except Error Settings :=
  match loadSettings q files with
  | .error e => .error e
  | .ok s =>
    match s.findings.result with
    | .error e => .error e
    | .ok _ => .ok s

/-- What is printed about a contract that is kept. -/
def contractText (report : Contract.Report) : String :=
  lines ["ok: " ++ toString report.declared.size ++ " lint crates resolve against " ++
    toString report.packages ++ " workspace packages"]

/-- What is printed about a smoke check that did not fail. -/
def smokeText : Smoke.Outcome → String
  | .skipped reason => lines ["skipped: " ++ reason]
  | .passed report =>
    lines (("ok: act exported " ++ toString report.artifacts.length ++ " artefacts") ::
      report.artifacts.map fun path => "  " ++ path.text)

/-- The temporary directory that is drawn for the artifacts of a run. Its path is absolute. -/
def temporaryRoot (env : Surroundings) (files : FileSystem) : Path :=
  let base : Path := ⟨(env.value? "TMPDIR").getD "/tmp"⟩
  ((FileSystem.absolute files.cwd).join base).child (".tmp" ++ env.temporaryId)

/-- The smoke check below a given directory. -/
def smokeBelow (r : Runner σ) (env : Surroundings) (s : Settings) (roster : Roster)
    (opportunistic : Bool) (artifactRoot : Path) (w : World σ) : Ending × World σ :=
  let mode := Smoke.Mode.resolve s.emulator (env.value? s.emulator.optInVariable) opportunistic
  match Smoke.check r s mode roster artifactRoot env.runId w with
  | (.error e, w) => (.failed e, w)
  | (.ok outcome, w) => (.printed (smokeText outcome), w)

/-- The smoke check below a temporary directory, which is removed in the end. -/
def smokeBelowTemporary (r : Runner σ) (env : Surroundings) (s : Settings) (roster : Roster)
    (opportunistic : Bool) (w : World σ) : Ending × World σ :=
  let root := temporaryRoot env w.files
  match w.files.makeDir root with
  | .error fault => (.failed (.io fault), w)
  | .ok files =>
    let (ending, w) := smokeBelow r env s roster opportunistic root { w with files }
    (ending, { w with files := w.files.removeTree root })

/-- The smoke check below the directory that was asked for, or below a temporary one. -/
def smoke (r : Runner σ) (env : Surroundings) (s : Settings) (roster : Roster)
    (opportunistic : Bool) (artifactRoot : Option Path) (w : World σ) : Ending × World σ :=
  match artifactRoot with
  | some root => smokeBelow r env s roster opportunistic root w
  | none => smokeBelowTemporary r env s roster opportunistic w

/-- Prints the declared names. -/
def runList (s : Settings) (w : World σ) : Ending × World σ :=
  match Contract.roster s w.files with
  | .error e => (.failed e, w)
  | .ok roster => (.printed (lines roster.names), w)

/-- Checks the contract of the roster. -/
def runContract (r : Runner σ) (s : Settings) (w : World σ) : Ending × World σ :=
  match Contract.check r s w with
  | (.error e, w) => (.failed e, w)
  | (.ok report, w) => (.printed (contractText report), w)

/-- Runs the smoke check with the declared roster. -/
def runSmoke (r : Runner σ) (env : Surroundings) (s : Settings) (opportunistic : Bool)
    (artifactRoot : Option Path) (w : World σ) : Ending × World σ :=
  match Contract.roster s w.files with
  | .error e => (.failed e, w)
  | .ok roster => smoke r env s roster opportunistic artifactRoot w

/-- Checks the contract of the roster, and then runs the smoke check with it. -/
def runCheck (r : Runner σ) (env : Surroundings) (s : Settings) (opportunistic : Bool)
    (w : World σ) : Ending × World σ :=
  match Contract.check r s w with
  | (.error e, w) => (.failed e, w)
  | (.ok report, w) =>
    let (ending, w) := smoke r env s report.declared opportunistic none w
    ({ ending with stdout := contractText report ++ ending.stdout }, w)

/-- Does what is asked for with settings that break no rule. -/
def runAction (r : Runner σ) (env : Surroundings) (s : Settings) (action : Action)
    (w : World σ) : Ending × World σ :=
  match action with
  | .list => runList s w
  | .contract => runContract r s w
  | .smoke opportunistic artifactRoot => runSmoke r env s opportunistic artifactRoot w
  | .check opportunistic => runCheck r env s opportunistic w

/-- Does what an errand asks for. -/
def run (r : Runner σ) (env : Surroundings) (q : Errand) (w : World σ) : Ending × World σ :=
  match usableSettings q w.files with
  | .error e => (.failed e, w)
  | .ok s => runAction r env s q.action w

/-- The name and version of the program. -/
def versionText : String :=
  lines ["workflow-contract 0.1.0"]

end Program

end LintRoster
