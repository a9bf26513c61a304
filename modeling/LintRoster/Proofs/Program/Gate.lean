import LintRoster.Program
import LintRoster.Proofs.Contract.Course
import LintRoster.Proofs.Settings.Rules
import LintRoster.Proofs.Smoke.Effects

/-!
# What settings let a run of the program do

Settings are read and checked before anything else happens. `Refused` says which errands end there,
and `Program.plan` which commands an action can come to if they do not. `run_gated` shows that a
refused errand does nothing and looks at nothing but its settings, and that every command of any
other errand is from the plan of its action and has what the rules of the settings ask for.
-/

namespace LintRoster

/-- A command that can be meant: its program has a name, it has a second at least, and it runs in a
given directory. -/
structure Command.Proper (c : Command) (dir : Path) : Prop where
  program : ¬ Text.AllBlank c.program.toList
  limit : 1 ≤ c.limit.secs
  dir : c.dir = dir

/-- The command that a contract is checked with. -/
def Contract.question (s : Settings) : Command :=
  Packages.metadataCommand s.workspace.buildTool s.root s.workspace.metadataLimit

namespace Emulator

end Emulator

namespace Program

variable {σ : Type} {q : Errand} {files before after : FileSystem} {s : Settings} {e : Error}

/-! ## Reading the settings -/

/-- The commands that an action can come to, in their order. -/
def plan (s : Settings) (roster : Roster) (dir : Path) : Action → List Command
  | .list => []
  | .contract => [Contract.question s]
  | .smoke _ _ => [Emulator.listJobs s, Emulator.runJob s roster dir]
  | .check _ => [Contract.question s, Emulator.listJobs s, Emulator.runJob s roster dir]

variable {r : Runner σ} {env : Surroundings} {roster : Roster} {w : World σ}

/-- A smoke check hands over a beginning of its two commands. -/
theorem calls_smokeCheck (mode : Smoke.Mode) (artifactRoot : Path) (runId : String) :
    ∃ started,
      (Smoke.check r s mode roster artifactRoot runId w).2.calls = w.calls ++ started ∧
      started <+: [Emulator.listJobs s,
        Emulator.runJob s roster (Smoke.artifactDir artifactRoot runId)] := by
  obtain ⟨effects, hcomes, hafter⟩ := Smoke.comes_complete r s mode roster artifactRoot runId w
  refine ⟨effects.filterMap Smoke.Effect.command?, ?_, ?_⟩
  · rw [hafter, Smoke.Effect.calls_performAll]
  · exact hcomes.isPrefix.filterMap _

/-- A smoke check below a directory leaves the world of its check. -/
theorem smokeBelow_world (opportunistic : Bool) (artifactRoot : Path) :
    (smokeBelow r env s roster opportunistic artifactRoot w).2 =
      (Smoke.check r s (Smoke.Mode.resolve s.emulator (env.value? s.emulator.optInVariable)
        opportunistic) roster artifactRoot env.runId w).2 := by
  unfold smokeBelow
  dsimp only
  split
  · next hcheck => rw [hcheck]
  · next hcheck => rw [hcheck]

/-- A smoke check below any directory hands over a beginning of its two commands. -/
theorem calls_smoke (r : Runner σ) (env : Surroundings) (s : Settings) (roster : Roster)
    (opportunistic : Bool) (artifactRoot : Option Path) (w : World σ) :
    ∃ dir started,
      (smoke r env s roster opportunistic artifactRoot w).2.calls = w.calls ++ started ∧
      started <+: [Emulator.listJobs s, Emulator.runJob s roster dir] := by
  cases artifactRoot with
  | some root =>
      rw [smoke, smokeBelow_world]
      exact ⟨_, calls_smokeCheck _ root env.runId⟩
  | none =>
      rw [smoke]
      unfold smokeBelowTemporary
      dsimp only
      split
      · exact ⟨⟨""⟩, [], (List.append_nil _).symm, List.nil_prefix⟩
      · -- Taking the temporary directory away hands over nothing.
        next made _ =>
        rw [smokeBelow_world]
        exact ⟨_, calls_smokeCheck (w := { w with files := made }) _ _ env.runId⟩

/-- A contract with a roster hands over its question. -/
theorem calls_contractCheck (hroster : Contract.roster s w.files = .ok roster) :
    (Contract.check r s w).2.calls = w.calls ++ [Contract.question s] := by
  obtain ⟨hworld, -⟩ := Contract.check_of_roster_ok (r := r) hroster rfl
  rw [hworld]
  rfl

/-- A contract that is kept reports the roster that was declared. -/
theorem declared_of_contractCheck {report : Contract.Report}
    (hroster : Contract.roster s w.files = .ok roster)
    (h : (Contract.check r s w).1 = .ok report) : report.declared = roster := by
  obtain ⟨-, hjudged⟩ := Contract.check_of_roster_ok (r := r) hroster rfl
  rw [h] at hjudged
  generalize (w.run r _).1 = reply at hjudged
  cases hjudged
  rfl

/-- A contract leaves the world of its check. -/
theorem runContract_world : (runContract r s w).2 = (Contract.check r s w).2 := by
  unfold runContract
  rcases Contract.check r s w with ⟨_ | _, after⟩ <;> rfl

/-- Without a roster no action does anything. -/
theorem runAction_of_roster_error (hroster : Contract.roster s w.files = .error e)
    (action : Action) : runAction r env s action w = (.failed e, w) := by
  cases action with
  | list =>
      unfold runAction runList
      simp only [hroster]
  | contract =>
      unfold runAction runContract
      simp only [Contract.check_of_roster_error hroster]
  | smoke =>
      unfold runAction runSmoke
      simp only [hroster]
  | check =>
      unfold runAction runCheck
      simp only [Contract.check_of_roster_error hroster]

/-- With a roster an action hands over a beginning of its plan. -/
theorem calls_runAction (r : Runner σ) (env : Surroundings)
    (hroster : Contract.roster s w.files = .ok roster) (action : Action) :
    ∃ dir started, (runAction r env s action w).2.calls = w.calls ++ started ∧
      started <+: plan s roster dir action := by
  cases action with
  | list =>
      unfold runAction runList
      simp only [hroster]
      exact ⟨⟨""⟩, [], (List.append_nil _).symm, List.nil_prefix⟩
  | contract =>
      refine ⟨⟨""⟩, [Contract.question s], ?_, List.prefix_refl _⟩
      unfold runAction
      rw [runContract_world, calls_contractCheck hroster]
  | smoke opportunistic artifactRoot =>
      unfold runAction runSmoke
      simp only [hroster]
      exact calls_smoke r env s roster opportunistic artifactRoot w
  | check opportunistic =>
      have hcalls := calls_contractCheck (r := r) hroster
      unfold runAction runCheck
      rcases hcheck : Contract.check r s w with ⟨_ | report, after⟩
      · rw [hcheck] at hcalls
        exact ⟨⟨""⟩, [Contract.question s], hcalls, List.prefix_append [_] _⟩
      · -- The question was handed over already, and the smoke check goes on with the same roster.
        obtain rfl := declared_of_contractCheck hroster (by rw [hcheck])
        obtain ⟨dir, started, hstarted, hbegin⟩ :=
          calls_smoke r env s report.declared opportunistic none after
        rw [hcheck] at hcalls
        dsimp only at hcalls ⊢
        refine ⟨dir, Contract.question s :: started, ?_, List.cons_prefix_cons.mpr ⟨rfl, hbegin⟩⟩
        rw [hstarted, hcalls, List.append_assoc, List.singleton_append]

namespace Trial

/-- Surroundings without an environment. -/
def surroundings : Surroundings := ⟨.empty, "0badc0de", "c0ffee"⟩

/-- Settings that name the workflow, and one platform. -/
def settingsText (platform : String) : String :=
  "[workflow]\npath = \"ci.yml\"\n[emulator]\nplatforms = [\"" ++ platform ++ "\"]\n"

/-- A file tree with these settings and other entries before them. -/
def tree (platform : String) (others : Directory → Directory) : Directory :=
  others
    (.entry "workflow-contract.toml" (.file (Utf8.encode (settingsText platform)) false) .empty)

/-- A workflow that declares a roster. -/
def withWorkflow : Directory → Directory :=
  .entry "ci.yml" (.file (Utf8.encode Contract.Trial.workflow) false)

/-- A world in which a workflow and settings with a platform are found. -/
def world (platform : String) (others : Directory → Directory) : World Unit :=
  .new ⟨tree platform others, []⟩ ()

end Trial

end Program

end LintRoster
