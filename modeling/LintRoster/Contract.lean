import LintRoster.Packages
import LintRoster.Roster.Extraction
import LintRoster.Runner
import LintRoster.Settings

/-!
# The contract of a roster

A roster keeps its contract if every declared name is a package of the workspace, every required
name is declared and no forbidden one is. `Roster.check` decides this for a given set of packages;
`Contract.check` reads the workflow and asks the build tool for the packages first.
-/

namespace LintRoster

namespace Roster

/-- The declared names that are not packages. -/
def unresolved (r : Roster) (packages : NameSet) : NameSet :=
  .ofList (r.names.filter fun name => !packages.contains name)

/-- The message about a required name that is not declared. -/
def missingRequired (name : String) : String :=
  "required crate '" ++ name ++ "' is not declared"

/-- The message about a forbidden name that is declared. -/
def presentForbidden (name : String) : String :=
  "crate '" ++ name ++ "' must not be declared"

/-- The rules of a policy that a roster breaks, one message for each name in the policy. -/
def violations (r : Roster) (policy : CratePolicy) : List String :=
  (policy.required.filter fun name => !r.contains name).map missingRequired ++
    (policy.forbidden.filter r.contains).map presentForbidden

/-- Checks a roster against the packages of a workspace, and then against a policy. -/
def check (r : Roster) (packages : NameSet) (policy : CratePolicy) : Except Error Unit :=
  let missing := r.unresolved packages
  if !missing.isEmpty then .error (.unresolved missing.toList)
  else
    let broken := r.violations policy
    if !broken.isEmpty then .error (.policyViolated broken) else .ok ()

end Roster

namespace Packages

variable {σ φ : Type} [CommandFault φ]

/-- The packages that the output of the metadata command reports. -/
def ofOutput (c : Command) (o : Output) : Except Error NameSet :=
  if o.succeeded then ofMetadata o.stdout else .error (.toolFailed c.display o.exitCode o.stderr)

/-- Asks the build tool for the packages of a workspace. -/
def query (r : RunnerWith σ φ) (buildTool : String) (workspace : Path) (limit : Span) (w : World σ) :
    Except Error NameSet × World σ :=
  let c := metadataCommand buildTool workspace limit
  match w.run r c with
  | (.error fault, w) => (.error (CommandFault.toError c fault), w)
  | (.ok o, w) => (ofOutput c o, w)

end Packages

namespace Contract

variable {σ φ : Type} [CommandFault φ]

/-- What a contract that is kept shows: the roster, and how many packages there are. -/
structure Report where
  declared : Roster
  packages : Nat
deriving DecidableEq

/-- The roster that the workflow of the settings declares. -/
def roster (s : Settings) (files : FileSystem) : Except Error Roster :=
  Roster.load files s.workflowPath s.workflow.lookup

/-- The report on a roster, if it keeps its contract with the packages. -/
def report (s : Settings) (declared : Roster) (packages : NameSet) : Except Error Report :=
  match declared.check packages s.policy with
  | .error e => .error e
  | .ok () => .ok ⟨declared, packages.size⟩

/-- Reads the roster, asks for the packages and checks the contract. -/
def check (r : RunnerWith σ φ) (s : Settings) (w : World σ) : Except Error Report × World σ :=
  match roster s w.files with
  | .error e => (.error e, w)
  | .ok declared =>
    match Packages.query r s.workspace.buildTool s.root s.workspace.metadataLimit w with
    | (.error e, w) => (.error e, w)
    | (.ok packages, w) => (report s declared packages, w)

end Contract

end LintRoster
