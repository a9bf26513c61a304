import LintRoster.Proofs.Contract.Rules
import LintRoster.Proofs.Roster.Declaration
import LintRoster.Proofs.Settings.Rules
import Mathlib.Data.Set.Finite.Basic

/-!
# Policies that can be met

A policy is met if a workflow declares a roster that keeps its contract in some workspace. What
keeps a policy from being met is either that it forbids what it requires, which is found in the
settings, or that it requires what no workflow can declare, which is not. `policy_met_iff` says that
there is no third reason: a sequence of the required names and one more name meets any other policy.
-/

namespace LintRoster

namespace Text

/-- A text is itself without blank characters around it. -/
theorem isPadded_self (s : String) : IsPadded s s :=
  ⟨[], [], by simp [AllBlank], by simp [AllBlank], by simp⟩

/-- There is a word besides the texts of a list. -/
theorem exists_word_not_mem (names : List String) : ∃ name, IsWord name ∧ name ∉ names := by
  let run (n : Nat) : String := .ofList (.replicate (n + 1) 'a')
  have hinjective : Function.Injective run := by
    intro m n h
    simpa [run] using congrArg String.length h
  have hword (n : Nat) : IsWord (run n) := by
    refine ⟨by simp [run], fun c hc ↦ ?_⟩
    obtain rfl : c = 'a' := by simpa [run] using hc
    decide
  obtain ⟨_, ⟨n, rfl⟩, hfresh⟩ :=
    (Set.infinite_range_of_injective hinjective).exists_notMem_finset names.toFinset
  exact ⟨run n, hword n, by simpa using hfresh⟩

end Text

namespace Yaml.Value

/-- Trimmed names are what a sequence of them declares. -/
theorem declares_strings {names : List String} (h : ∀ name ∈ names, Text.IsTrimmed name) :
    (seq (names.map .string)).Declares names := by
  refine .items _ names rfl ?_
  induction names with
  | nil => exact .nil
  | cons name names ih =>
      obtain ⟨hname, hnames⟩ := List.forall_mem_cons.mp h
      exact .name _ name name _ _ rfl hname (Text.isPadded_self name) (ih hnames)

end Yaml.Value

namespace Roster

variable {path : Path} {lookup : Lookup}

/-- Any trimmed names make up a roster that a workflow declares. -/
theorem exists_ofWorkflow_eq_ok (path : Path) (lookup : Lookup) {names : List String}
    (hne : names ≠ []) (h : ∀ name ∈ names, Text.IsTrimmed name) :
    ∃ w, ofWorkflow path lookup w = .ok ⟨names, .root, hne⟩ := by
  refine ⟨.declaring lookup.key (.seq (names.map .string)), ?_⟩
  exact ofWorkflow_eq_ok_iff.mpr ⟨_, Workflow.find?_declaring lookup rfl,
    Yaml.Value.names?_eq_ok_iff.mpr (Yaml.Value.declares_strings h)⟩

/-- No error is found in a policy that some roster keeps. -/
theorem errors_eq_nil_of_check {r : Roster} {packages : NameSet} {policy : CratePolicy}
    (h : r.check packages policy = .ok ()) : policy.findings.errors = [] := by
  obtain ⟨-, hrequired, hforbidden⟩ := rules_of_check h
  exact CratePolicy.errors_eq_nil_iff.mpr fun name hname hmem ↦
    hforbidden name hmem (hrequired name hname)

/-- Every name that a policy requires is trimmed if a declared roster keeps the policy. -/
theorem isTrimmed_of_required {w : Workflow} {r : Roster} {packages : NameSet}
    {policy : CratePolicy} (hroster : ofWorkflow path lookup w = .ok r)
    (hkept : r.check packages policy = .ok ()) :
    ∀ name ∈ policy.required, Text.IsTrimmed name := by
  obtain ⟨-, hrequired, -⟩ := rules_of_check hkept
  exact fun name hname ↦ isTrimmed_of_ofWorkflow hroster name (hrequired name hname)

/-- A policy that forbids nothing that it requires, and requires trimmed names only, is kept by the
required names and one more name that is not forbidden. -/
theorem exists_met (path : Path) (lookup : Lookup) {policy : CratePolicy}
    (hvalid : policy.findings.errors = [])
    (htrimmed : ∀ name ∈ policy.required, Text.IsTrimmed name) :
    ∃ w r packages, ofWorkflow path lookup w = .ok r ∧ r.check packages policy = .ok () := by
  -- The further name is needed where nothing is required: a roster is never empty.
  obtain ⟨further, hword, hfree⟩ := Text.exists_word_not_mem policy.forbidden
  have hne : further :: policy.required ≠ [] := List.cons_ne_nil _ _
  obtain ⟨w, hroster⟩ := exists_ofWorkflow_eq_ok path lookup hne
    (List.forall_mem_cons.mpr ⟨hword.isTrimmed, htrimmed⟩)
  refine ⟨w, _, .ofList (further :: policy.required), hroster, ?_⟩
  rw [check_of_resolved fun name hname ↦ NameSet.mem_toList_ofList.mpr hname, if_pos]
  refine violations_eq_nil_iff.mpr ⟨fun name hname ↦ List.mem_cons_of_mem _ hname, ?_⟩
  intro name hforbidden hmem
  obtain rfl | hrequired := List.mem_cons.mp hmem
  · exact hfree hforbidden
  · exact CratePolicy.errors_eq_nil_iff.mp hvalid name hrequired hforbidden

/-- Some workflow declares a roster that keeps a policy in some workspace exactly if no error is
found in the policy and every name that it requires is trimmed. A policy in which an error is found
refuses every roster in every workspace. -/
theorem policy_met_iff (policy : CratePolicy) (path : Path) (lookup : Lookup) :
    ((∃ w r packages, ofWorkflow path lookup w = .ok r ∧ r.check packages policy = .ok ()) ↔
      policy.findings.errors = [] ∧ ∀ name ∈ policy.required, Text.IsTrimmed name) ∧
    (policy.findings.errors ≠ [] →
      ∀ (r : Roster) packages, ∃ e, r.check packages policy = .error e) := by
  refine ⟨⟨?_, ?_⟩, ?_⟩
  · rintro ⟨w, r, packages, hroster, hkept⟩
    exact ⟨errors_eq_nil_of_check hkept, isTrimmed_of_required hroster hkept⟩
  · rintro ⟨hvalid, htrimmed⟩
    exact exists_met path lookup hvalid htrimmed
  · intro hinvalid r packages
    cases hcheck : r.check packages policy with
    | ok => exact absurd (errors_eq_nil_of_check hcheck) hinvalid
    | error e => exact ⟨e, rfl⟩

namespace Trial

/-- A policy that requires a name twice and forbids another one. -/
def sound : CratePolicy := ⟨["suite", "suite"], ["beta"]⟩

/-- A policy that forbids a name that it requires. -/
def torn : CratePolicy := ⟨["suite", "beta"], ["beta"]⟩

/-- A policy that requires a name with a blank in front. -/
def indented : CratePolicy := ⟨[" suite"], []⟩

end Trial

open Trial in
/-- A policy that forbids another name than the required one is met. One that forbids what it
requires refuses a roster of packages. No error is found in one that requires a name with a blank in
front, and still no workflow declares a roster that keeps it. -/
theorem policy_met_trial :
    (∃ w r packages, ofWorkflow ⟨"wf.yml"⟩ settings.workflow.lookup w = .ok r ∧
      r.check packages sound = .ok ()) ∧
    (torn.findings.errors ≠ [] ∧
      ∃ e, pair.check (.ofList ["alpha", "beta"]) torn = .error e) ∧
    indented.findings.errors = [] ∧
    ¬ ∃ w r packages, ofWorkflow ⟨"wf.yml"⟩ settings.workflow.lookup w = .ok r ∧
      r.check packages indented = .ok () := by
  have hword : Text.IsWord "suite" := ⟨by decide, by decide⟩
  have htorn : torn.findings.errors ≠ [] := by decide
  refine ⟨?_, ⟨htorn, ?_⟩, by decide, ?_⟩
  · refine (policy_met_iff sound _ _).1.mpr ⟨by decide, fun name hname ↦ ?_⟩
    obtain rfl : name = "suite" := by simpa [sound] using hname
    exact hword.isTrimmed
  · exact (policy_met_iff torn ⟨"wf.yml"⟩ settings.workflow.lookup).2 htorn pair _
  · intro hmet
    have htrimmed := ((policy_met_iff indented _ _).1.mp hmet).2 " suite" (by decide)
    exact absurd (htrimmed.head_not_blank ' ' rfl) (by decide)

end Roster

end LintRoster
