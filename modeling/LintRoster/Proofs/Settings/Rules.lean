import LintRoster.Proofs.Text.Trim
import LintRoster.Settings.Rules

/-!
# What settings without an error keep to

Each recording function adds its own errors at the end and leaves the others alone. From this
`Settings.errors_eq_nil_iff` puts the rules of all four sections into one structure:
`Settings.Sound` holds exactly of the settings in which no error is found.
-/

namespace LintRoster

namespace Text

/-- A text is found blank exactly if all of its characters are. -/
theorem isBlankText_iff {s : String} : isBlankText s = true ↔ AllBlank s.toList :=
  List.all_eq_true

end Text

namespace Findings

variable {α : Type} (f : Findings)

/-- A text that has to be given is one error if it is blank. -/
@[simp]
theorem errors_requireText (field value : String) :
    (f.requireText field value).errors =
      f.errors ++
        if Text.isBlankText value then [f.qualify (field ++ " cannot be empty")] else [] := by
  unfold requireText
  split
  · rfl
  · rw [List.append_nil]

/-- A number of seconds is one error if it is zero. -/
@[simp]
theorem errors_requireSeconds (field : String) (seconds : Nat) :
    (f.requireSeconds field seconds).errors =
      f.errors ++ if seconds = 0 then [f.qualify (field ++ " must be at least 1")] else [] := by
  unfold requireSeconds
  by_cases h : seconds = 0
  · simp only [h, BEq.rfl, if_true]
    rfl
  · simp only [h, beq_iff_eq, if_false, List.append_nil]

/-- Several errors are recorded in their order, all under the same name. -/
@[simp]
theorem errors_foldl_addError (message : α → String) (items : List α) :
    (items.foldl (fun f item ↦ f.addError (message item)) f).errors =
      f.errors ++ items.map fun item ↦ f.qualify (message item) := by
  induction items generalizing f with
  | nil => simp
  | cons item items ih =>
      rw [List.foldl_cons, ih, addError, List.append_assoc]
      -- An error changes nothing of the name that later ones are recorded under.
      rfl

/-- The errors of another section come after those that are there. -/
@[simp]
theorem errors_merge (other : Findings) : (f.merge other).errors = f.errors ++ other.errors := rfl

variable {f}

/-- No error was found in a section in which nothing was looked at. -/
theorem errors_ofSection {name : String} : (ofSection name).errors = [] := rfl

/-- No error is found so far exactly if none was found before and the text is not blank. -/
theorem errors_requireText_eq_nil_iff {field value : String} :
    (f.requireText field value).errors = [] ↔ f.errors = [] ∧ ¬ Text.AllBlank value.toList := by
  rw [errors_requireText, List.append_eq_nil_iff, ← Text.isBlankText_iff]
  split
  · next h => simp [h]
  · next h => simp [h]

/-- No error is found so far exactly if none was found before and there is a second at least. -/
theorem errors_requireSeconds_eq_nil_iff {field : String} {seconds : Nat} :
    (f.requireSeconds field seconds).errors = [] ↔ f.errors = [] ∧ 1 ≤ seconds := by
  rw [errors_requireSeconds, List.append_eq_nil_iff, Nat.one_le_iff_ne_zero]
  split
  · next h => simp [h]
  · next h => simp [h]

/-- No error is found so far exactly if none was found before and there is nothing to report. -/
theorem errors_foldl_addError_eq_nil_iff {message : α → String} {items : List α} :
    (items.foldl (fun f item ↦ f.addError (message item)) f).errors = [] ↔
      f.errors = [] ∧ items = [] := by
  rw [errors_foldl_addError, List.append_eq_nil_iff, List.map_eq_nil_iff]

end Findings

/-- What settings have to keep to so that a check can be made with them. -/
structure Settings.Sound (s : Settings) : Prop where
  workflowPath : ¬ Text.AllBlank s.workflow.path.text.toList
  job : ¬ Text.AllBlank s.workflow.job.toList
  key : ¬ Text.AllBlank s.workflow.key.toList
  buildTool : ¬ Text.AllBlank s.workspace.buildTool.toList
  metadataSeconds : 1 ≤ s.workspace.metadataSeconds
  policy : ∀ name ∈ s.policy.required, name ∉ s.policy.forbidden
  program : ¬ Text.AllBlank s.emulator.program.toList
  optInVariable : ¬ Text.AllBlank s.emulator.optInVariable.toList
  preflightSeconds : 1 ≤ s.emulator.preflightSeconds
  runSeconds : 1 ≤ s.emulator.runSeconds
  platforms : ∀ platform ∈ s.emulator.platforms, '=' ∈ platform.toList

/-- No error is found in the settings of a workflow exactly if none of them is blank. -/
theorem WorkflowSettings.errors_eq_nil_iff {s : WorkflowSettings} :
    s.findings.errors = [] ↔ ¬ Text.AllBlank s.path.text.toList ∧ ¬ Text.AllBlank s.job.toList ∧
      ¬ Text.AllBlank s.key.toList := by
  simp only [findings, Findings.errors_requireText_eq_nil_iff, Findings.errors_ofSection, true_and,
    and_assoc]

/-- No error is found in the settings of a workspace exactly if the build tool is named and given
time. -/
theorem WorkspaceSettings.errors_eq_nil_iff {s : WorkspaceSettings} :
    s.findings.errors = [] ↔ ¬ Text.AllBlank s.buildTool.toList ∧ 1 ≤ s.metadataSeconds := by
  simp only [findings, Findings.errors_requireText_eq_nil_iff,
    Findings.errors_requireSeconds_eq_nil_iff, Findings.errors_ofSection, true_and]

/-- No error is found in a policy exactly if it forbids nothing that it requires. -/
theorem CratePolicy.errors_eq_nil_iff {p : CratePolicy} :
    p.findings.errors = [] ↔ ∀ name ∈ p.required, name ∉ p.forbidden := by
  simp only [findings, Findings.errors_foldl_addError_eq_nil_iff, Findings.errors_ofSection,
    true_and, List.filter_eq_nil_iff, List.contains_iff_mem]

namespace EmulatorSettings

/-- Warnings are no errors. -/
@[simp]
theorem errors_addWarnings (s : EmulatorSettings) (f : Findings) :
    (s.addWarnings f).errors = f.errors := by
  unfold addWarnings
  dsimp only
  split <;> split <;> rfl

/-- No error is found in the settings of an emulator exactly if it and the variable are named, it is
given time for both commands, and every platform has an equals sign. -/
theorem errors_eq_nil_iff {s : EmulatorSettings} :
    s.findings.errors = [] ↔
      ¬ Text.AllBlank s.program.toList ∧ ¬ Text.AllBlank s.optInVariable.toList ∧
      1 ≤ s.preflightSeconds ∧ 1 ≤ s.runSeconds ∧
      ∀ platform ∈ s.platforms, '=' ∈ platform.toList := by
  simp only [findings, Findings.errors_foldl_addError_eq_nil_iff, errors_addWarnings,
    Findings.errors_requireText_eq_nil_iff, Findings.errors_requireSeconds_eq_nil_iff,
    Findings.errors_ofSection, true_and, and_assoc, List.filter_eq_nil_iff, isPlatform,
    Bool.not_eq_true', Bool.not_eq_false, List.contains_iff_mem]

end EmulatorSettings

namespace Settings

/-- The errors of settings are those of the four sections, one after the other. -/
theorem errors_findings (s : Settings) :
    s.findings.errors = s.workflow.findings.errors ++ s.workspace.findings.errors ++
      s.policy.findings.errors ++ s.emulator.findings.errors := by
  simp [findings, sectionFindings]

/-- No error is found in settings exactly if they keep to every rule. -/
theorem errors_eq_nil_iff {s : Settings} : s.findings.errors = [] ↔ s.Sound := by
  simp only [errors_findings, List.append_eq_nil_iff, WorkflowSettings.errors_eq_nil_iff,
    WorkspaceSettings.errors_eq_nil_iff, CratePolicy.errors_eq_nil_iff,
    EmulatorSettings.errors_eq_nil_iff]
  constructor
  · rintro ⟨⟨⟨⟨hpath, hjob, hkey⟩, htool, hmetadata⟩, hpolicy⟩, hprogram, hvariable, hpreflight,
      hrun, hplatforms⟩
    exact ⟨hpath, hjob, hkey, htool, hmetadata, hpolicy, hprogram, hvariable, hpreflight, hrun,
      hplatforms⟩
  · intro h
    exact ⟨⟨⟨⟨h.workflowPath, h.job, h.key⟩, h.buildTool, h.metadataSeconds⟩, h.policy⟩, h.program,
      h.optInVariable, h.preflightSeconds, h.runSeconds, h.platforms⟩

end Settings

end LintRoster
