import LintRoster.Contract
import LintRoster.Proofs.NameSet
import LintRoster.Proofs.Packages

/-!
# The course of a contract check

A check reads the workflow and extracts the roster before it asks the build tool for anything, and
the answer of the build tool is judged in a fixed order. `Judged` is this order: each constructor
holds what the earlier ones exclude. `check_course` shows that a check asks at most one question,
that the answer decides as `Judged` says, and that nothing but the runner touches the files.
-/

namespace LintRoster.Contract

variable {σ φ : Type} [CommandFault φ]

/-- `Judged s declared c reply result` says a check that extracted the roster `declared` and was
answered `reply` to the command `c` ends with `result`. -/
inductive Judged (s : Settings) (declared : Roster) (c : Command) :
    Except φ Output → Except Error Report → Prop where
  | faulted (fault) : Judged s declared c (.error fault) (.error (CommandFault.toError c fault))
  | failed (o) :
      o.exitCode ≠ some 0 →
      Judged s declared c (.ok o) (.error (.toolFailed c.display o.exitCode o.stderr))
  | garbled (o reason) :
      o.exitCode = some 0 → (∀ names, ¬ Packages.Lists o.stdout names) →
      Judged s declared c (.ok o) (.error (.metadataUnreadable reason))
  | broken (o names e) :
      o.exitCode = some 0 → Packages.Lists o.stdout names →
      declared.check (.ofList names) s.policy = .error e →
      Judged s declared c (.ok o) (.error e)
  | kept (o names) :
      o.exitCode = some 0 → Packages.Lists o.stdout names →
      declared.check (.ofList names) s.policy = .ok () →
      Judged s declared c (.ok o) (.ok ⟨declared, names.dedup.length⟩)

variable {r : RunnerWith σ φ} {s : Settings} {w : World σ} {declared : Roster}

/-- A check without a roster is over before anything is asked. -/
theorem check_of_roster_error {e : Error} (h : roster s w.files = .error e) :
    check r s w = (.error e, w) := by
  unfold check
  simp only [h]

/-- The report on a roster is judged by the rules, with the listed names as packages. -/
theorem judged_report {o : Output} {names : List String} {c : Command}
    (hexit : o.exitCode = some 0) (hlists : Packages.Lists o.stdout names) :
    Judged (φ := φ) s declared c (.ok o) (report s declared (.ofList names)) := by
  unfold report
  split
  · next e hcheck => exact .broken o names e hexit hlists hcheck
  · next hcheck =>
      rw [NameSet.size_ofList]
      exact .kept o names hexit hlists hcheck

/-- An output is judged by its exit code, then by what it lists, and then by the rules. -/
theorem judged_output (s : Settings) (declared : Roster) (c : Command) (o : Output) :
    Judged (φ := φ) s declared c (.ok o)
      (match Packages.ofOutput c o with
        | .error e => .error e
        | .ok packages => report s declared packages) := by
  -- The exit code comes first: without success the output is not read.
  cases hsucceeded : o.succeeded with
  | false =>
      simp only [Packages.ofOutput, hsucceeded, Bool.false_eq_true, if_false]
      refine .failed o fun hexit ↦ ?_
      rw [Output.succeeded_iff.mpr hexit] at hsucceeded
      cases hsucceeded
  | true =>
      have hexit := Output.succeeded_iff.mp hsucceeded
      simp only [Packages.ofOutput, hsucceeded, if_true]
      split
      · next e hread =>
          obtain ⟨reason, rfl⟩ := Packages.metadataUnreadable_of_ofMetadata_error hread
          exact .garbled o reason hexit (Packages.not_lists_of_ofMetadata_error hread)
      · next packages hread =>
          obtain ⟨names, hlists, rfl⟩ := Packages.ofMetadata_eq_ok_iff.mp hread
          exact judged_report hexit hlists

/-- A check with a roster asks for the packages, and the answer decides it. -/
theorem check_of_roster_ok {c : Command} (h : roster s w.files = .ok declared)
    (hc : c = Packages.metadataCommand s.workspace.buildTool s.root s.workspace.metadataLimit) :
    (check r s w).2 = (w.run r c).2 ∧ Judged s declared c (w.run r c).1 (check r s w).1 := by
  unfold check
  simp only [h, Packages.query, ← hc]
  rcases w.run r c with ⟨fault | o, after⟩
  · exact ⟨rfl, .faulted fault⟩
  · have hjudged := judged_output (φ := φ) s declared c o
    dsimp only
    cases hread : Packages.ofOutput c o with
    | error | ok =>
        rw [hread] at hjudged
        exact ⟨rfl, hjudged⟩

/-- A check whose workflow cannot be read, or declares no roster, ends with that error and asks for
nothing. Any other check asks for the packages once, and ends as the answer is judged: by the fault,
the exit code, the metadata, and then the rules for the roster and the names that the metadata
lists. The runner is the only one to change files. -/
theorem check_course (r : RunnerWith σ φ) (s : Settings) (w : World σ) :
    (∀ fault, w.files.readText s.workflowPath = .error fault →
      check r s w = (.error (.io fault), w)) ∧
    (∀ text e, w.files.readText s.workflowPath = .ok text →
      Roster.extract text s.workflowPath s.workflow.lookup = .error e →
      check r s w = (.error e, w)) ∧
    (∀ text declared, w.files.readText s.workflowPath = .ok text →
      Roster.extract text s.workflowPath s.workflow.lookup = .ok declared →
      ∃ c reply files memory,
        c = ⟨s.workspace.buildTool, ["metadata", "--format-version", "1", "--no-deps"], s.root,
          .seconds s.workspace.metadataSeconds⟩ ∧
        r.answer c w.files w.memory = (reply, files, memory) ∧
        (check r s w).2 = ⟨files, memory, w.calls ++ [c]⟩ ∧
        Judged s declared c reply (check r s w).1) ∧
    ∀ (c : Command) (e : Error), CommandFault.toError c e = e := by
  refine ⟨?_, ?_, ?_, fun _ _ ↦ rfl⟩
  · intro fault hread
    exact check_of_roster_error (by simp only [roster, Roster.load, hread])
  · intro text e hread hextract
    exact check_of_roster_error (by simp only [roster, Roster.load, hread, hextract])
  · intro text declared hread hextract
    have hroster : roster s w.files = .ok declared := by
      simp only [roster, Roster.load, hread, hextract]
    obtain ⟨hworld, hjudged⟩ := check_of_roster_ok (r := r) hroster rfl
    exact ⟨_, _, _, _, rfl, rfl, hworld, hjudged⟩

namespace Trial

/-- The settings of the trial. -/
def settings : Settings := { root := ⟨"/"⟩, workflow := { path := ⟨"ci.yml"⟩ } }

/-- A workflow that declares one name twice. -/
def workflow : String := "env:\n  LINT_CRATES: beta alpha beta\n"

/-- The roster of that workflow: two names, of which one comes twice. -/
def pair : Roster := ⟨["beta", "alpha", "beta"], .root, List.cons_ne_nil _ _⟩

/-- A world with the workflow in its place. -/
def world : World Unit := .new ⟨.entry "ci.yml" (.file (Utf8.encode workflow) false) .empty, []⟩ ()

/-- Metadata about two packages, one of which is listed twice. -/
def metadata : String :=
  "\x7b\"packages\": [\x7b\"name\": \"beta\"\x7d, \x7b\"name\": \"alpha\"\x7d, " ++
    "\x7b\"name\": \"beta\"\x7d]\x7d"

/-- A build tool that answers every question with the same output. -/
def tool (o : Output) : Runner Unit where
  locates _ _ := true
  answer _ files _ := (.ok o, files, ())

/-- The question that the check of the trial asks. -/
def question : Command :=
  ⟨"cargo", ["metadata", "--format-version", "1", "--no-deps"], ⟨"/"⟩, .seconds 120⟩

end Trial

open Trial in
/-- Two packages keep the contract of the trial, each counted once. The same metadata is not looked
at if the build tool failed. -/
theorem check_course_trial :
    check (tool ⟨some 0, metadata, ""⟩) settings world =
      (.ok ⟨pair, 2⟩, ⟨world.files, (), [question]⟩) ∧
    check (tool ⟨some 101, metadata, "refused"⟩) settings world =
      (.error (.toolFailed "cargo metadata --format-version 1 --no-deps" (some 101) "refused"),
        ⟨world.files, (), [question]⟩) := by
  have hread : world.files.readText settings.workflowPath = .ok workflow := by decide +kernel
  have hextract : Roster.extract workflow settings.workflowPath settings.workflow.lookup =
      .ok pair := by decide +kernel
  have hmetadata : Packages.ofMetadata metadata = .ok (.ofList pair.names) := by decide +kernel
  have hkept : pair.check (.ofList pair.names) settings.policy = .ok () := by decide +kernel
  obtain ⟨names, hlists, hnames⟩ := Packages.ofMetadata_eq_ok_iff.mp hmetadata
  constructor
  · obtain ⟨c, reply, files, memory, rfl, ⟨⟩, hworld, hjudged⟩ :=
      (check_course (tool ⟨some 0, metadata, ""⟩) settings world).2.2.1 workflow pair hread hextract
    refine Prod.ext ?_ hworld
    generalize (check (tool _) settings world).1 = result at hjudged ⊢
    cases hjudged with
    | failed _ hexit => exact absurd rfl hexit
    | garbled _ reason hexit hnone => exact absurd hlists (hnone names)
    | broken _ names' e hexit hlists' hcheck =>
        cases hlists.unique hlists'
        rw [← hnames, hkept] at hcheck
        cases hcheck
    | kept _ names' hexit hlists' hcheck =>
        cases hlists.unique hlists'
        rw [← NameSet.size_ofList, ← hnames]
        decide +kernel
  · obtain ⟨c, reply, files, memory, rfl, ⟨⟩, hworld, hjudged⟩ :=
      (check_course (tool ⟨some 101, metadata, "refused"⟩) settings world).2.2.1 workflow pair hread
        hextract
    refine Prod.ext ?_ hworld
    generalize (check (tool _) settings world).1 = result at hjudged ⊢
    cases hjudged with
    | failed => rfl
    | garbled _ _ hexit | broken _ _ _ hexit | kept _ _ hexit => cases hexit

end LintRoster.Contract
