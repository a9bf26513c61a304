import LintRoster.Proofs.Settings.Rules

/-!
# The report on settings

A rule is a condition under which some settings are wrong, with the message for this case and the
section that the settings stand in. `Settings.rules` lists the rules whose breach is an error and
`Settings.cautions` those whose breach is a warning, in the order in which they are reported.
`findings_report` says that the findings are exactly the entries of the broken ones. It is put
together from what one recording function adds to a report, over the sections.
-/

namespace LintRoster

/-- A rule of a section: when it is broken, and what is said then. -/
structure Rule where
  heading : String
  message : String
  broken : Prop
  decidable : Decidable broken := by infer_instance

namespace Rule

instance (rule : Rule) : Decidable rule.broken :=
  rule.decidable

/-- The rule that a text must not be blank. -/
def filled (heading field value : String) : Rule where
  heading
  message := field ++ " cannot be empty"
  broken := Text.AllBlank value.toList

/-- The rule that a number of seconds must not be zero. -/
def positive (heading field : String) (seconds : Nat) : Rule where
  heading
  message := field ++ " must be at least 1"
  broken := seconds = 0

/-- The entry of a broken rule: its message under the name of the section. -/
def entry (rule : Rule) : String :=
  rule.heading ++ "." ++ rule.message

/-- The entries of the broken rules, in the order of the rules. -/
def report (rules : List Rule) : List String :=
  (rules.filter fun rule ↦ rule.broken).map entry

/-- The report on more rules follows the report on those before. -/
theorem report_append (rules others : List Rule) :
    report (rules ++ others) = report rules ++ report others := by
  simp [report]

/-- A single rule is reported exactly if it is broken. -/
theorem report_singleton (rule : Rule) :
    report [rule] = if rule.broken then [rule.entry] else [] := by
  by_cases h : rule.broken <;> simp [report, h]

/-- Nothing is reported exactly if no rule is broken. -/
theorem report_eq_nil_iff {rules : List Rule} :
    report rules = [] ↔ ∀ rule ∈ rules, ¬ rule.broken := by
  simp [report]

/-- There are as many entries as broken rules. -/
theorem length_report (rules : List Rule) :
    (report rules).length = rules.countP fun rule ↦ rule.broken := by
  rw [report, List.length_map, List.countP_eq_length_filter]

end Rule

/-! ## The rules -/

/-- The rules for the settings of a workflow. -/
def WorkflowSettings.rules (s : WorkflowSettings) : List Rule :=
  [.filled "workflow" "path" s.path.text,
    .filled "workflow" "job" s.job,
    .filled "workflow" "key" s.key]

/-- The rules for the settings of a workspace. -/
def WorkspaceSettings.rules (s : WorkspaceSettings) : List Rule :=
  [.filled "workspace" "cargo" s.buildTool,
    .positive "workspace" "metadata_timeout_secs" s.metadataSeconds]

namespace CratePolicy

/-- The rule that a required name must not be forbidden. -/
def allowed (p : CratePolicy) (name : String) : Rule where
  heading := "policy"
  message := "required and forbidden both name '" ++ name ++ "'"
  broken := name ∈ p.forbidden

/-- The rules for a policy: one for each occurrence of a name that it requires. -/
def rules (p : CratePolicy) : List Rule :=
  p.required.map p.allowed

end CratePolicy

namespace EmulatorSettings

/-- The rule that a platform must have an equals sign. -/
def labelled (platform : String) : Rule where
  heading := "emulator"
  message := "platforms entry '" ++ platform ++ "' must have the form <label>=<image>"
  broken := '=' ∉ platform.toList

/-- The rules for the settings of an emulator, with one for each platform. -/
def rules (s : EmulatorSettings) : List Rule :=
  [.filled "emulator" "binary" s.program,
    .filled "emulator" "opt_in_var" s.optInVariable,
    .positive "emulator" "preflight_timeout_secs" s.preflightSeconds,
    .positive "emulator" "run_timeout_secs" s.runSeconds] ++ s.platforms.map labelled

/-- The rule that listing the jobs should be given less time than a run. -/
def preflightShorter (s : EmulatorSettings) : Rule where
  heading := "emulator"
  message := "preflight_timeout_secs is not shorter than run_timeout_secs"
  broken := ¬ s.preflightSeconds < s.runSeconds

/-- The rule that there should be a forbidden signature. -/
def signed (s : EmulatorSettings) : Rule where
  heading := "emulator"
  message := "forbidden_signatures is empty, only exit code and artifacts are checked"
  broken := s.forbiddenSignatures = []

/-- The rules whose breach is a warning only. -/
def cautions (s : EmulatorSettings) : List Rule :=
  [s.preflightShorter, s.signed]

end EmulatorSettings

namespace Settings

/-- The rules for settings, those of one section after those of the other. -/
def rules (s : Settings) : List Rule :=
  s.workflow.rules ++ s.workspace.rules ++ s.policy.rules ++ s.emulator.rules

/-- The rules for settings whose breach is a warning only. -/
def cautions (s : Settings) : List Rule :=
  s.emulator.cautions

end Settings

/-! ## What is recorded for a section -/

namespace Findings

/-- The findings are recorded under this name, and they are the reports on these rules and
cautions. -/
structure Reports (f : Findings) (name : String) (rules cautions : List Rule) : Prop where
  heading : f.heading = name
  named : name ≠ ""
  errors : f.errors = Rule.report rules
  warnings : f.warnings = Rule.report cautions

namespace Reports

variable {α : Type} {f : Findings} {name : String} {rules cautions : List Rule}

/-- A message is recorded under the name of the section. -/
theorem qualify_eq (h : f.Reports name rules cautions) (message : String) :
    f.qualify message = name ++ "." ++ message := by
  simp [qualify, h.heading, h.named]

/-- Nothing is reported in the beginning. -/
theorem ofSection (name : String) (hnamed : name ≠ "") : (ofSection name).Reports name [] [] :=
  ⟨rfl, hnamed, rfl, rfl⟩

/-- An error that is recorded reports a broken rule. -/
theorem addError (h : f.Reports name rules cautions) (rule : Rule) (hname : rule.heading = name)
    (hbroken : rule.broken) : (f.addError rule.message).Reports name (rules ++ [rule]) cautions where
  heading := h.heading
  named := h.named
  errors := by
    rw [Rule.report_append, Rule.report_singleton, if_pos hbroken, Rule.entry, hname, ← h.errors,
      ← h.qualify_eq]
    rfl
  warnings := h.warnings

/-- A rule that is kept needs no error. -/
theorem keepRule (h : f.Reports name rules cautions) (rule : Rule) (hkept : ¬ rule.broken) :
    f.Reports name (rules ++ [rule]) cautions where
  heading := h.heading
  named := h.named
  errors := by
    rw [Rule.report_append, Rule.report_singleton, if_neg hkept, List.append_nil, h.errors]
  warnings := h.warnings

/-- A warning on a condition adds the caution that is broken under this condition. -/
theorem addWarningIf (h : f.Reports name rules cautions) (rule : Rule)
    (hname : rule.heading = name) (condition : Prop) [Decidable condition]
    (hbroken : condition ↔ rule.broken) :
    (if condition then f.addWarning rule.message else f).Reports name rules
      (cautions ++ [rule]) := by
  have hreport := Rule.report_append cautions [rule]
  rw [Rule.report_singleton] at hreport
  split
  · next hmet =>
      refine ⟨h.heading, h.named, h.errors, ?_⟩
      rw [hreport, if_pos (hbroken.mp hmet), Rule.entry, hname, ← h.warnings, ← h.qualify_eq]
      rfl
  · next hunmet =>
      refine ⟨h.heading, h.named, h.errors, ?_⟩
      rw [hreport, if_neg (mt hbroken.mpr hunmet), List.append_nil, h.warnings]

/-- A text that has to be given adds the rule that it must not be blank. -/
theorem requireText (h : f.Reports name rules cautions) (field value : String) :
    (f.requireText field value).Reports name (rules ++ [.filled name field value]) cautions := by
  unfold Findings.requireText
  split
  · next hblank =>
      exact h.addError (.filled name field value) rfl (Text.isBlankText_iff.mp hblank)
  · next hfilled => exact h.keepRule _ (mt Text.isBlankText_iff.mpr hfilled)

/-- A number of seconds adds the rule that it must not be zero. -/
theorem requireSeconds (h : f.Reports name rules cautions) (field : String) (seconds : Nat) :
    (f.requireSeconds field seconds).Reports name (rules ++ [.positive name field seconds])
      cautions := by
  unfold Findings.requireSeconds
  split
  · next hzero => exact h.addError (.positive name field seconds) rfl (beq_iff_eq.mp hzero)
  · next hpositive => exact h.keepRule _ (mt beq_iff_eq.mpr hpositive)

/-- Errors about those of some items that a test finds add one rule for each item. -/
theorem addErrors (h : f.Reports name rules cautions) (ruleOf : α → Rule) {test : α → Bool}
    (hname : ∀ item, (ruleOf item).heading = name)
    (htest : ∀ item, test item = true ↔ (ruleOf item).broken) (items : List α) :
    ((items.filter test).foldl (fun f item ↦ f.addError (ruleOf item).message) f).Reports name
      (rules ++ items.map ruleOf) cautions := by
  -- The findings so far are general, because each item adds to those of the items before it.
  induction items generalizing f rules with
  | nil => simpa using h
  | cons item items ih =>
      rw [List.map_cons, List.append_cons, List.filter_cons]
      split
      · next hbroken => exact ih (h.addError _ (hname item) ((htest item).mp hbroken))
      · next hkept => exact ih (h.keepRule _ (mt (htest item).mpr hkept))

end Reports

/-- Findings are answered with their warnings, unless there are errors. -/
theorem result_eq (f : Findings) :
    f.result = if f.errors = [] then .ok f.warnings else .error (.config (.invalid f.errors)) := by
  simp only [result, isValid, List.isEmpty_iff]

end Findings

/-- The findings on a workflow are the report on its rules. -/
theorem WorkflowSettings.reports (s : WorkflowSettings) :
    s.findings.Reports "workflow" s.rules [] :=
  (((Findings.Reports.ofSection _ (by decide)).requireText _ _).requireText _ _).requireText _ _

/-- The findings on a workspace are the report on its rules. -/
theorem WorkspaceSettings.reports (s : WorkspaceSettings) :
    s.findings.Reports "workspace" s.rules [] :=
  ((Findings.Reports.ofSection _ (by decide)).requireText _ _).requireSeconds _ _

/-- The findings on a policy are the report on its rules. -/
theorem CratePolicy.reports (p : CratePolicy) : p.findings.Reports "policy" p.rules [] :=
  (Findings.Reports.ofSection _ (by decide)).addErrors p.allowed (fun _ ↦ rfl)
    (fun _ ↦ List.contains_iff_mem) p.required

namespace EmulatorSettings

/-- The warnings about an emulator are the report on its cautions. -/
theorem reports_addWarnings (s : EmulatorSettings) {f : Findings} {rules : List Rule}
    (h : f.Reports "emulator" rules []) :
    (s.addWarnings f).Reports "emulator" rules s.cautions :=
  (h.addWarningIf s.preflightShorter rfl _ Nat.not_lt.symm).addWarningIf s.signed rfl _
    List.isEmpty_iff

/-- A platform without an equals sign breaks its rule. -/
theorem not_isPlatform_iff (platform : String) :
    (!isPlatform platform) = true ↔ (labelled platform).broken := by
  rw [isPlatform, Bool.not_eq_true', ← Bool.not_eq_true, List.contains_iff_mem]
  rfl

/-- The findings on an emulator are the reports on its rules and cautions. -/
theorem reports (s : EmulatorSettings) : s.findings.Reports "emulator" s.rules s.cautions := by
  have htexts := ((Findings.Reports.ofSection "emulator" (by decide)).requireText
    "binary" s.program).requireText "opt_in_var" s.optInVariable
  have hseconds := (htexts.requireSeconds "preflight_timeout_secs" s.preflightSeconds).requireSeconds
    "run_timeout_secs" s.runSeconds
  exact (s.reports_addWarnings hseconds).addErrors labelled (fun _ ↦ rfl) not_isPlatform_iff
    s.platforms

end EmulatorSettings

namespace Settings

/-- The warnings about settings are those about the emulator. -/
theorem warnings_findings (s : Settings) :
    s.findings.warnings = s.workflow.findings.warnings ++ s.workspace.findings.warnings ++
      s.policy.findings.warnings ++ s.emulator.findings.warnings := by
  simp [findings, sectionFindings, Findings.merge]

/-- The errors in settings are the report on their rules. -/
theorem errors_eq_report (s : Settings) : s.findings.errors = Rule.report s.rules := by
  rw [errors_findings, s.workflow.reports.errors, s.workspace.reports.errors,
    s.policy.reports.errors, s.emulator.reports.errors, rules, Rule.report_append,
    Rule.report_append, Rule.report_append]

/-- The warnings about settings are the report on their cautions. -/
theorem warnings_eq_report (s : Settings) : s.findings.warnings = Rule.report s.cautions := by
  rw [warnings_findings, s.workflow.reports.warnings, s.workspace.reports.warnings,
    s.policy.reports.warnings, s.emulator.reports.warnings]
  rfl

/-- The errors in settings are the entries of exactly the rules that are broken, in the order of the
rules, and the warnings are those of the broken cautions, whether or not there are errors. An entry
is the message of its rule with the name of its section in front, once. Settings that break no rule
are answered with all warnings; any others are refused with an error that says how many rules are
broken and lists the entries of all of them. -/
theorem findings_report (s : Settings) :
    s.findings.errors =
      (s.rules.filter fun rule ↦ rule.broken).map (fun rule ↦ rule.heading ++ "." ++ rule.message) ∧
    s.findings.warnings =
      (s.cautions.filter fun rule ↦ rule.broken).map
        (fun rule ↦ rule.heading ++ "." ++ rule.message) ∧
    ((∀ rule ∈ s.rules, ¬ rule.broken) → s.findings.result = .ok s.findings.warnings) ∧
    ((∃ rule ∈ s.rules, rule.broken) → ∃ fault, s.findings.result = .error (.config fault) ∧
      (Error.config fault).message = "configuration error: " ++
        toString (s.rules.countP fun rule ↦ rule.broken) ++ " invalid setting(s): " ++
        String.intercalate "; " s.findings.errors) := by
  refine ⟨s.errors_eq_report, s.warnings_eq_report, fun hkept ↦ ?_, fun hbroken ↦ ?_⟩
  · have hnone : s.findings.errors = [] := s.errors_eq_report.trans (Rule.report_eq_nil_iff.mpr hkept)
    rw [Findings.result_eq, if_pos hnone]
  · have hsome : s.findings.errors ≠ [] := by
      rw [errors_eq_report, ne_eq, Rule.report_eq_nil_iff]
      push Not
      exact hbroken
    have hcount : s.findings.errors.length = s.rules.countP fun rule ↦ rule.broken := by
      rw [errors_eq_report, Rule.length_report]
    refine ⟨.invalid s.findings.errors, by rw [Findings.result_eq, if_neg hsome], ?_⟩
    rw [← hcount]
    rfl

namespace Trial

/-- Settings that break rules of every section, one of them for a name that is required twice, and
both cautions. -/
def broken : Settings where
  workflow := { job := "\u3000" }
  workspace := { metadataSeconds := 0 }
  policy := ⟨["suite", "alpha", "suite"], ["beta", "suite"]⟩
  emulator :=
    { platforms := ["ubuntu", "label=image"], runSeconds := 0, forbiddenSignatures := [] }

/-- The entries of the rules that the settings break. -/
def entries : List String :=
  ["workflow.job cannot be empty",
    "workspace.metadata_timeout_secs must be at least 1",
    "policy.required and forbidden both name 'suite'",
    "policy.required and forbidden both name 'suite'",
    "emulator.run_timeout_secs must be at least 1",
    "emulator.platforms entry 'ubuntu' must have the form <label>=<image>"]

/-- The entries are those of the broken rules. -/
theorem map_filter_rules_broken :
    (broken.rules.filter fun rule ↦ rule.broken).map
      (fun rule ↦ rule.heading ++ "." ++ rule.message) = entries := by
  decide

end Trial

open Trial in
/-- The settings of the trial are refused with six entries, and warned about twice. The default
settings are answered with no warnings. -/
theorem findings_report_trial :
    (∃ rule ∈ broken.rules, rule.broken) ∧ (∀ rule ∈ rules {}, ¬ rule.broken) ∧
    broken.findings.errors = entries ∧ broken.findings.warnings.length = 2 ∧
    (∃ fault, broken.findings.result = .error (.config fault) ∧
      (Error.config fault).message = "configuration error: " ++ toString 6 ++
        " invalid setting(s): " ++ String.intercalate "; " entries) ∧
    (findings {}).result = .ok [] := by
  have hbroken : ∃ rule ∈ broken.rules, rule.broken := by decide
  have hkept : ∀ rule ∈ rules {}, ¬ rule.broken := by decide
  obtain ⟨herrors, hwarnings, -, hrefused⟩ := findings_report broken
  obtain ⟨-, hquiet, haccepted, -⟩ := findings_report {}
  rw [map_filter_rules_broken] at herrors
  refine ⟨hbroken, hkept, herrors, ?_, ?_, ?_⟩
  · rw [hwarnings]
    decide
  · obtain ⟨fault, hresult, hmessage⟩ := hrefused hbroken
    refine ⟨fault, hresult, ?_⟩
    rw [hmessage, herrors]
    have hcount : (broken.rules.countP fun rule ↦ rule.broken) = 6 := by decide
    rw [hcount]
  · rw [haccepted hkept, hquiet]
    decide

end Settings

end LintRoster
