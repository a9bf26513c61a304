import LintRoster.Proofs.Contract.Rules
import LintRoster.Proofs.Roster.Declaration
import LintRoster.Proofs.Text.Joined

/-!
# The names in a message

The message about names that are no packages joins them by commas with a space behind each. A name
may hold commas, and it may end with one. `unresolved_message_spec` says that the names can still be
read off the message if they are declared by a scalar, because these names are the words of its text
and hold no blank character.
-/

namespace LintRoster.Roster

/-- The roster is what a workflow gives whose declared value is a scalar, under any tags. -/
def DeclaredByScalar (r : Roster) : Prop :=
  ∃ path lookup w scope value,
    Workflow.find? w lookup = some (scope, value) ∧ ¬ value.IsCollection ∧
      ofWorkflow path lookup w = .ok r

section

variable {r : Roster} {packages : NameSet} {policy : CratePolicy}

/-- A roster that is extracted from a text is declared by a scalar if the value that the workflow
declares is one. -/
theorem declaredByScalar_of_extract {text : String} {path : Path} {lookup : Lookup}
    (h : extract text path lookup = .ok r)
    (hvalue : ∀ w scope value, Workflow.parse text path = .ok w →
      w.find? lookup = some (scope, value) → ¬ value.IsCollection) : r.DeclaredByScalar := by
  obtain ⟨w, value, hparse, hfind, -⟩ := exists_of_extract_eq_ok h
  rw [extract, hparse] at h
  exact ⟨path, lookup, w, r.scope, value, hfind, hvalue w r.scope value hparse hfind, h⟩

/-- The names that a scalar declares are words. -/
theorem DeclaredByScalar.isWord (h : r.DeclaredByScalar) : ∀ name ∈ r.names, Text.IsWord name := by
  obtain ⟨path, lookup, w, scope, value, hfind, hvalue, hroster⟩ := h
  rw [ofWorkflow_of_find? hfind, ofValue_eq_ok_iff] at hroster
  intro name hname
  refine (value.names?_spec hroster.1 name hname).2 fun items hitems ↦ ?_
  exact hvalue (Or.inl ⟨items, hitems⟩)

/-- The names that are unresolved hold no blank character if a scalar declares them. -/
theorem DeclaredByScalar.unspaced_unresolved (h : r.DeclaredByScalar) (packages : NameSet) :
    ∀ name ∈ (r.unresolved packages).toList, Text.Unspaced name :=
  fun name hname ↦ (h.isWord name (mem_unresolved_iff.mp hname).1).unspaced

/-- A roster with a name that is no package has a name that is unresolved. -/
theorem unresolved_ne_nil (h : ∃ name ∈ r.names, name ∉ packages.toList) :
    (r.unresolved packages).toList ≠ [] := by
  obtain ⟨name, hname⟩ := h
  exact List.ne_nil_of_mem (mem_unresolved_iff.mpr hname)

end

end LintRoster.Roster

namespace LintRoster.Error

/-- Lists of unspaced names with the same message are the same. -/
theorem unresolved_message_injective {names names' : List String} (hne : names ≠ [])
    (hne' : names' ≠ []) (hnames : ∀ name ∈ names, Text.Unspaced name)
    (hnames' : ∀ name ∈ names', Text.Unspaced name)
    (h : (unresolved names').message = (unresolved names).message) : names' = names := by
  have hjoined : ", ".intercalate names' = ", ".intercalate names :=
    String.append_right_inj unresolvedLead |>.mp h
  rw [← Text.split_intercalate hne' hnames', hjoined, Text.split_intercalate hne hnames]

end LintRoster.Error

namespace LintRoster.Roster

/-- If a scalar declares a name that is no package, the message of the error is a fixed text with
another one behind it. This one, cut at every comma with a space behind it, gives exactly the
declared names that are no packages, each of them once and in the order of their bytes. Two such
errors have the same message exactly if the same names are missing. -/
theorem unresolved_message_spec (r : Roster) (packages : NameSet) (policy : CratePolicy)
    (hscalar : r.DeclaredByScalar) (hmissing : ∃ name ∈ r.names, name ∉ packages.toList) :
    ∃ e rest missing,
      r.check packages policy = .error e ∧
      e.message = "workflow declares lint crates that are not workspace packages: " ++ rest ∧
      (rest.split ", ").toList.map String.Slice.copy = missing ∧
      (missing.Pairwise fun a b ↦ Utf8.encode a < Utf8.encode b) ∧
      (∀ name, name ∈ missing ↔ name ∈ r.names ∧ name ∉ packages.toList) ∧
      ∀ (r' : Roster) (packages' : NameSet) (policy' : CratePolicy) (e' : Error),
        r'.DeclaredByScalar → (∃ name ∈ r'.names, name ∉ packages'.toList) →
        r'.check packages' policy' = .error e' →
        (e'.message = e.message ↔
          ∀ name, (name ∈ r'.names ∧ name ∉ packages'.toList) ↔
            name ∈ r.names ∧ name ∉ packages.toList) := by
  have hne := unresolved_ne_nil hmissing
  have hnames := hscalar.unspaced_unresolved packages
  refine ⟨_, ", ".intercalate (r.unresolved packages).toList, _,
    check_of_unresolved hmissing policy, rfl, Text.split_intercalate hne hnames,
    NameSet.sorted_by_bytes _, fun _ ↦ mem_unresolved_iff, ?_⟩
  intro r' packages' policy' e' hscalar' hmissing' hcheck'
  rw [check_of_unresolved hmissing' policy', Except.error.injEq] at hcheck'
  subst hcheck'
  have hnames' := hscalar'.unspaced_unresolved packages'
  simp only [← mem_unresolved_iff]
  constructor
  · intro hmessage name
    have hne' := unresolved_ne_nil hmissing'
    rw [Error.unresolved_message_injective hne hne' hnames hnames' hmessage]
  · intro hsame
    rw [NameSet.eq_of_mem_iff hsame]

namespace Trial

/-- A workflow with names that end with commas, hold one, are parts of others or stand in the
message. -/
def commasText : String := "env:\n  LINT_CRATES: crates alpha, alph beta beta,gamma alpha,\n"

/-- The roster of the workflow. -/
def commas : Roster :=
  ⟨["crates", "alpha,", "alph", "beta", "beta,gamma", "alpha,"], .root, by decide⟩

/-- A roster of two of the names, one of them without its comma. -/
def plainNames : Roster := ⟨["crates", "alpha"], .root, by decide⟩

/-- The value that the workflow declares is a text. -/
theorem scalarText?_commasText :
    ((Workflow.parse commasText ⟨"rolling-release.yml"⟩).toOption.bind
      (·.find? settings.workflow.lookup)).bind (·.2.scalarText?) =
      some "crates alpha, alph beta beta,gamma alpha," := by
  decide +kernel

/-- The roster of the workflow is declared by a text. -/
theorem declaredByScalar_commas : commas.DeclaredByScalar := by
  have hroster := extract_eq_ok (by decide +kernel : roster? commasText = some commas)
  refine declaredByScalar_of_extract hroster fun w scope value hparse hfind hvalue ↦ ?_
  have htext := scalarText?_commasText
  rw [hparse, Except.toOption, Option.bind_some, hfind, Option.bind_some,
    Yaml.Value.scalarText?_eq_none_iff.mpr hvalue] at htext
  cases htext

/-- The roster of two names is declared by a text. -/
theorem declaredByScalar_plainNames : plainNames.DeclaredByScalar := by
  refine ⟨⟨"wf.yml"⟩, settings.workflow.lookup,
    .declaring "LINT_CRATES" (.string "crates alpha"), .root, _,
    Workflow.find?_declaring settings.workflow.lookup rfl, ?_, rfl⟩
  rw [← Yaml.Value.scalarText?_eq_none_iff]
  simp [Yaml.Value.scalarText?]

end Trial

open Trial in
/-- In a workspace of one package, the four other names of the trial are read off the message, and a
message about other names is another one. -/
theorem unresolved_message_trial :
    commas.DeclaredByScalar ∧
    (∃ name ∈ commas.names, name ∉ (NameSet.ofList ["beta"]).toList) ∧
    ∃ e rest missing,
      commas.check (.ofList ["beta"]) {} = .error e ∧
      e.message = "workflow declares lint crates that are not workspace packages: " ++ rest ∧
      (rest.split ", ").toList.map String.Slice.copy = missing ∧
      (∀ name, name ∈ missing ↔ name ∈ ["alph", "alpha,", "beta,gamma", "crates"]) ∧
      ∃ e', plainNames.check .empty {} = .error e' ∧ e'.message ≠ e.message := by
  have hmissing : ∃ name ∈ commas.names, name ∉ (NameSet.ofList ["beta"]).toList :=
    ⟨"crates", by decide, by decide⟩
  refine ⟨declaredByScalar_commas, hmissing, ?_⟩
  obtain ⟨e, rest, missing, hcheck, hmessage, hsplit, -, hmem, hsame⟩ :=
    unresolved_message_spec commas (.ofList ["beta"]) {} declaredByScalar_commas hmissing
  have hother : plainNames.check .empty {} = .error (.unresolved ["alpha", "crates"]) := by decide
  refine ⟨e, rest, missing, hcheck, hmessage, hsplit, fun name ↦ ?_, _, hother, fun heq ↦ ?_⟩
  · have hpackages : (NameSet.ofList ["beta"]).toList = ["beta"] := by decide
    rw [hmem, hpackages]
    simp only [commas, List.mem_cons, List.not_mem_nil, or_false]
    grind
  · have hiff := (hsame plainNames .empty {} _ declaredByScalar_plainNames
      ⟨"crates", by decide, by decide⟩ hother).mp heq "alph"
    exact absurd (hiff.mpr (by decide)) (by decide)

end LintRoster.Roster
