import LintRoster.Contract
import LintRoster.Proofs.NameSet

/-!
# The rules of a contract

`Selected` is what a report about some of the names in a list holds: one entry for each occurrence,
in the order of the list. `check_iff_rules` says that a roster passes its check exactly if it keeps
all three rules, and which of them an error is about if it does not.
-/

namespace LintRoster

/-- `Selected p names selected` says the second list holds the names of the first one that have the
property `p`: one for each occurrence, in order, and nothing else. -/
inductive Selected (p : String → Prop) : List String → List String → Prop where
  | nil : Selected p [] []
  | take (name names selected) :
      p name → Selected p names selected → Selected p (name :: names) (name :: selected)
  | leave (name names selected) :
      ¬ p name → Selected p names selected → Selected p (name :: names) selected

/-- A filter selects the names that it lets through. -/
theorem selected_filter {p : String → Prop} {test : String → Bool}
    (htest : ∀ name, test name = true ↔ p name) (names : List String) :
    Selected p names (names.filter test) := by
  induction names with
  | nil => exact .nil
  | cons name names ih =>
      rw [List.filter_cons]
      split
      · next h => exact .take name names _ ((htest name).mp h) ih
      · next h => exact .leave name names _ (mt (htest name).mpr h) ih

/-- What is selected is what a filter lets through. -/
theorem Selected.eq_filter {p : String → Prop} [DecidablePred p] {names selected : List String}
    (h : Selected p names selected) : selected = names.filter (p ·) := by
  induction h with
  | nil => rfl
  | take name names selected hname _ ih => simp [hname, ← ih]
  | leave name names selected hname _ ih => simp [hname, ← ih]

namespace Roster

section

variable {r : Roster} {packages : NameSet} {policy : CratePolicy}

/-- A roster contains the names that it declares. -/
theorem contains_iff {name : String} : r.contains name = true ↔ name ∈ r.names :=
  List.contains_iff_mem

/-- The names that are unresolved are declared and no packages. -/
theorem mem_unresolved_iff {name : String} :
    name ∈ (r.unresolved packages).toList ↔ name ∈ r.names ∧ name ∉ packages.toList := by
  rw [unresolved, NameSet.mem_toList_ofList, List.mem_filter, Bool.not_eq_true',
    ← Bool.not_eq_true, NameSet.contains_iff]

/-- Nothing is unresolved exactly if all declared names are packages. -/
theorem unresolved_isEmpty_iff :
    (r.unresolved packages).isEmpty = true ↔ ∀ name ∈ r.names, name ∈ packages.toList := by
  simp only [NameSet.isEmpty_iff, List.eq_nil_iff_forall_not_mem, mem_unresolved_iff, not_and,
    not_not]

/-- The violations of a policy are the required names that are not declared and then the forbidden
names that are, one for each occurrence and in the order of the policy. -/
theorem violations_spec (r : Roster) (policy : CratePolicy) :
    ∃ undeclared present,
      Selected (· ∉ r.names) policy.required undeclared ∧
      Selected (· ∈ r.names) policy.forbidden present ∧
      r.violations policy = undeclared.map missingRequired ++ present.map presentForbidden := by
  refine ⟨_, _, selected_filter (fun name ↦ ?_) _, selected_filter (fun _ ↦ contains_iff) _, rfl⟩
  rw [Bool.not_eq_true', ← Bool.not_eq_true, contains_iff]

/-- A policy is not violated exactly if every required name is declared and no forbidden one is. -/
theorem violations_eq_nil_iff :
    r.violations policy = [] ↔
      (∀ name ∈ policy.required, name ∈ r.names) ∧ ∀ name ∈ policy.forbidden, name ∉ r.names := by
  simp [violations, ← contains_iff]

/-- A roster with a name that is no package is refused because of such names. -/
theorem check_of_unresolved (h : ∃ name ∈ r.names, name ∉ packages.toList)
    (policy : CratePolicy) :
    r.check packages policy = .error (.unresolved (r.unresolved packages).toList) := by
  have hmissing : ¬ (r.unresolved packages).isEmpty = true := by
    rw [unresolved_isEmpty_iff]
    push Not
    exact h
  simp [check, hmissing]

/-- A roster of packages is checked against the policy alone. -/
theorem check_of_resolved (h : ∀ name ∈ r.names, name ∈ packages.toList) (policy : CratePolicy) :
    r.check packages policy =
      if r.violations policy = [] then .ok ()
      else .error (.policyViolated (r.violations policy)) := by
  simp [check, unresolved_isEmpty_iff.mpr h]

/-- A roster that passes its check keeps all three rules. -/
theorem rules_of_check (h : r.check packages policy = .ok ()) :
    (∀ name ∈ r.names, name ∈ packages.toList) ∧
    (∀ name ∈ policy.required, name ∈ r.names) ∧
    ∀ name ∈ policy.forbidden, name ∉ r.names := by
  have hresolved : ∀ name ∈ r.names, name ∈ packages.toList := by
    by_contra hmissing
    push Not at hmissing
    rw [check_of_unresolved hmissing] at h
    cases h
  rw [check_of_resolved hresolved] at h
  split at h
  · next hkept => exact ⟨hresolved, violations_eq_nil_iff.mp hkept⟩
  · cases h

end

/-- A roster passes its check exactly if every declared name is a package, every required name is
declared and no forbidden name is declared. Names that are no packages are reported before all else:
each of them once, in the order of their bytes. If there are none, the report has one entry for each
occurrence of a required name that is not declared, and then one for each occurrence of a forbidden
name that is declared, in the order of the policy. -/
theorem check_iff_rules (r : Roster) (packages : NameSet) (policy : CratePolicy) :
    (r.check packages policy = .ok () ↔
      (∀ name ∈ r.names, name ∈ packages.toList) ∧
      (∀ name ∈ policy.required, name ∈ r.names) ∧
      ∀ name ∈ policy.forbidden, name ∉ r.names) ∧
    ((∃ name ∈ r.names, name ∉ packages.toList) →
      ∃ missing, r.check packages policy = .error (.unresolved missing) ∧
        (missing.Pairwise fun a b ↦ Utf8.encode a < Utf8.encode b) ∧
        ∀ name, name ∈ missing ↔ name ∈ r.names ∧ name ∉ packages.toList) ∧
    ((∀ name ∈ r.names, name ∈ packages.toList) →
      ((∃ name ∈ policy.required, name ∉ r.names) ∨ ∃ name ∈ policy.forbidden, name ∈ r.names) →
      ∃ undeclared present entries,
        r.check packages policy = .error (.policyViolated entries) ∧
        Selected (· ∉ r.names) policy.required undeclared ∧
        Selected (· ∈ r.names) policy.forbidden present ∧
        entries = undeclared.map (fun name ↦ "required crate '" ++ name ++ "' is not declared") ++
          present.map (fun name ↦ "crate '" ++ name ++ "' must not be declared") ∧
        (Error.policyViolated entries).message =
          "lint crate policy violated: " ++ String.intercalate "; " entries) := by
  refine ⟨?_, ?_, ?_⟩
  · by_cases hresolved : ∀ name ∈ r.names, name ∈ packages.toList
    · rw [check_of_resolved hresolved, ← violations_eq_nil_iff, and_iff_right hresolved]
      by_cases hkept : r.violations policy = [] <;> simp [hkept]
    · have hmissing : ∃ name ∈ r.names, name ∉ packages.toList := by
        push Not at hresolved
        exact hresolved
      simp [check_of_unresolved hmissing, hresolved]
  · intro hmissing
    exact ⟨_, check_of_unresolved hmissing policy, NameSet.sorted_by_bytes _,
      fun _ ↦ mem_unresolved_iff⟩
  · intro hresolved hbroken
    have hviolated : r.violations policy ≠ [] := by
      rw [ne_eq, violations_eq_nil_iff]
      push Not
      exact fun hdeclared ↦ hbroken.resolve_left (by push Not; exact hdeclared)
    obtain ⟨undeclared, present, hrequired, hforbidden, hentries⟩ := violations_spec r policy
    exact ⟨undeclared, present, _, by rw [check_of_resolved hresolved, if_neg hviolated],
      hrequired, hforbidden, hentries, rfl⟩

namespace Trial

/-- A policy that requires two names, one of them twice, and forbids two. -/
def policy : CratePolicy := ⟨["suite", "alpha", "suite"], ["beta", "delta"]⟩

/-- A roster of three names, of which two are the same. -/
def pair : Roster := ⟨["beta", "alpha", "alpha"], .root, List.cons_ne_nil _ _⟩

end Trial

open Trial in
/-- A name that is no package is reported before the policy is looked at, and once. Where all names
are packages, both occurrences of the required name and the forbidden name are reported. -/
theorem check_rules_trial :
    (∃ missing, pair.check (.ofList ["alpha"]) policy = .error (.unresolved missing) ∧
      "beta" ∈ missing) ∧
    ∃ undeclared present entries,
      pair.check (.ofList ["beta", "alpha"]) policy = .error (.policyViolated entries) ∧
      entries = undeclared.map missingRequired ++ present.map presentForbidden ∧
      undeclared = ["suite", "suite"] ∧ present = ["beta"] := by
  constructor
  · obtain ⟨missing, hcheck, -, hmem⟩ := (check_iff_rules pair (.ofList ["alpha"]) policy).2.1
      ⟨"beta", by decide, by decide⟩
    exact ⟨missing, hcheck, (hmem "beta").mpr (by decide)⟩
  · obtain ⟨undeclared, present, entries, hcheck, hrequired, hforbidden, hentries, -⟩ :=
      (check_iff_rules pair (.ofList ["beta", "alpha"]) policy).2.2 (by decide)
        (Or.inl ⟨"suite", by decide, by decide⟩)
    refine ⟨undeclared, present, entries, hcheck, hentries, ?_, ?_⟩
    · exact hrequired.eq_filter.trans (by decide)
    · exact hforbidden.eq_filter.trans (by decide)

end Roster

end LintRoster
