import LintRoster.Proofs.Roster.Declaration
import LintRoster.Proofs.Text.Layout

/-!
# Declarations of the same words

Words can be declared by a text, in any layout, or by a sequence, with blank items anywhere.
`Yaml.Value.Lists` says that a value declares given words in one of these forms, and
`listed_alike` that all such values give the same roster, and that no other text and no other
sequence gives it.
-/

namespace LintRoster

namespace Yaml.Value

/-- `v.Lists names` says the value declares the words, in order: as a text in some layout of them,
or as a sequence whose items are blank or hold one word each. -/
inductive Lists (v : Value) (names : List String) : Prop where
  | text (l : Text.Layout names) : v.untagged = .string l.text → Lists v names
  | items (items) : v.untagged = .seq items → ItemNames items names → Lists v names

/-- A text or a sequence declares words exactly if it lists them. -/
theorem declares_iff_lists {v : Value} {names : List String} (hne : names ≠ [])
    (hwords : ∀ name ∈ names, Text.IsWord name)
    (hform : (∃ s, v.untagged = .string s) ∨ ∃ items, v.untagged = .seq items) :
    v.Declares names ↔ v.Lists names := by
  have htext : v.scalarText? = v.untagged.scalarText? := (scalarText?_untagged v).symm
  constructor
  · rintro (⟨items, _, hv, hitems⟩ | ⟨text, _, hscalar, hspells⟩)
    · exact .items items hv hitems
    · rw [htext] at hscalar
      obtain ⟨s, hv⟩ | ⟨items, hv⟩ := hform
      · obtain rfl : s = text := by simpa [hv, scalarText?] using hscalar
        obtain ⟨l, rfl⟩ := (Text.exists_layout_iff hne hwords).mpr (Text.spells_iff.mp hspells)
        exact .text l hv
      · rw [hv, scalarText?] at hscalar
        cases hscalar
  · rintro (⟨l, hv⟩ | ⟨items, hv, hitems⟩)
    · have hscalar : v.scalarText? = some l.text := by rw [htext, hv, scalarText?]
      have hspells := Text.spells_iff.mpr ((Text.exists_layout_iff hne hwords).mp ⟨l, rfl⟩)
      exact .words l.text names hscalar hspells
    · exact .items items names hv hitems

/-- A value that lists words is a text or a sequence. -/
theorem Lists.form {v : Value} {names : List String} (h : v.Lists names) :
    (∃ s, v.untagged = .string s) ∨ ∃ items, v.untagged = .seq items := by
  obtain ⟨l, hv⟩ | ⟨items, hv, -⟩ := h
  · exact Or.inl ⟨l.text, hv⟩
  · exact Or.inr ⟨items, hv⟩

end Yaml.Value

namespace Roster

/-- All declarations of the same words in the same scope give the same roster, of exactly these
words: every text that is a layout of them, and every sequence whose items are blank or hold one of
them each, whatever tags they are under, whatever else a workflow holds, and whether it is given or
read from a text. No other text and no other sequence gives these words. -/
theorem listed_alike (path : Path) (lookup : Lookup) (names : List String) (hne : names ≠ [])
    (hwords : ∀ name ∈ names, Text.IsWord name) :
    (∀ (w : Workflow) scope value,
      w.find? lookup = some (scope, value) → value.Lists names →
        ofWorkflow path lookup w = .ok ⟨names, scope, hne⟩ ∧
        (∀ text, Workflow.parse text path = .ok w →
          extract text path lookup = .ok ⟨names, scope, hne⟩) ∧
        ∀ (w' : Workflow) value',
          w'.find? lookup = some (scope, value') → value'.Lists names →
            ofWorkflow path lookup w' = ofWorkflow path lookup w) ∧
    ∀ (w : Workflow) scope value,
      w.find? lookup = some (scope, value) →
      ((∃ s, value.untagged = .string s) ∨ ∃ items, value.untagged = .seq items) →
      ofWorkflow path lookup w = .ok ⟨names, scope, hne⟩ → value.Lists names := by
  have hlisted (w : Workflow) (scope : Scope) (value : Yaml.Value)
      (hfind : w.find? lookup = some (scope, value))
      (hform : (∃ s, value.untagged = .string s) ∨ ∃ items, value.untagged = .seq items) :
      ofWorkflow path lookup w = .ok ⟨names, scope, hne⟩ ↔ value.Lists names := by
    rw [ofWorkflow_of_find? hfind, ofValue_eq_ok_iff, Yaml.Value.names?_eq_ok_iff, and_iff_left rfl]
    exact Yaml.Value.declares_iff_lists hne hwords hform
  refine ⟨?_, fun w scope value hfind hform ↦ (hlisted w scope value hfind hform).mp⟩
  intro w scope value hfind hvalue
  have hroster := (hlisted w scope value hfind hvalue.form).mpr hvalue
  refine ⟨hroster, ?_, ?_⟩
  · intro text hparse
    rw [extract, hparse]
    exact hroster
  · intro w' value' hfind' hvalue'
    rw [hroster]
    exact (hlisted w' scope value' hfind' hvalue'.form).mpr hvalue'

namespace Trial

/-- The words of the trial, two of which are the same. -/
def repeated : List String := ["alpha", "42", "alpha"]

/-- A layout of the words with several kinds of blanks. -/
def spread : Text.Layout repeated where
  lead := ['\u2003', '\n']
  gaps := [['\t', ' '], ['\u3000']]
  trail := ['\u00a0']
  blank_lead := by decide
  blank_trail := by decide
  blank_gap := by decide
  gap_ne_nil := by decide
  length_gaps := rfl

/-- Items that hold the words among blank ones, one of them as a number and one under a tag. -/
def scattered : List Yaml.Value :=
  [.null, .tagged "!name" (.string "\u2003alpha "), .string "\t\u00a0", .number (.int 42),
    .tagged "!none" .null, .string "alpha\n"]

/-- The workflow with a value in the environment of its job. -/
def inJob (value : Yaml.Value) : Workflow :=
  ⟨none, ⟨[("build-lints", ⟨some (.map [(.string "LINT_CRATES", value)])⟩)], by simp⟩⟩

end Trial

open Trial in
/-- The layout of the trial and the items of the trial, each in the environment of the job, give one
roster, of the three words. -/
theorem listed_alike_trial :
    ofWorkflow ⟨"wf.yml"⟩ settings.workflow.lookup (inJob (.string spread.text)) =
      .ok ⟨["alpha", "42", "alpha"], .job "build-lints", by decide⟩ ∧
    ofWorkflow ⟨"wf.yml"⟩ settings.workflow.lookup (inJob (.tagged "!list" (.seq scattered))) =
      ofWorkflow ⟨"wf.yml"⟩ settings.workflow.lookup (inJob (.string spread.text)) := by
  have hnames : repeated ≠ [] := by decide
  have hwords : ∀ name ∈ repeated, Text.IsWord name := by decide
  obtain ⟨hlisted, -⟩ := listed_alike ⟨"wf.yml"⟩ settings.workflow.lookup repeated hnames hwords
  have htext : (Yaml.Value.string spread.text).Lists repeated := .text spread rfl
  have hitems : (Yaml.Value.tagged "!list" (.seq scattered)).Lists repeated := by
    have htexts : scattered.map Yaml.Value.scalarText? =
        ["", "\u2003alpha ", "\t\u00a0", "42", "", "alpha\n"].map some := by rfl
    have hspec := Yaml.Value.itemNames_spec htexts
    have htrimmed : Yaml.Value.itemNames
        ["", "\u2003alpha ", "\t\u00a0", "42", "", "alpha\n"] = repeated := by decide
    exact .items scattered rfl (htrimmed ▸ hspec)
  obtain ⟨hroster, -, hsame⟩ :=
    hlisted (inJob (.string spread.text)) (.job "build-lints") _ rfl htext
  exact ⟨hroster, hsame (inJob (.tagged "!list" (.seq scattered))) _ rfl hitems⟩

open Trial in
/-- A quoted text and a sequence in block style are extracted to the same roster. -/
example :
    roster? "env:\n  LINT_CRATES: \"  alpha\\tbeta\\n gamma \"\n" =
      some ⟨["alpha", "beta", "gamma"], .root, by decide⟩ ∧
    roster? "env:\n  LINT_CRATES:\n    - alpha\n    - ' beta '\n    - gamma\n" =
      some ⟨["alpha", "beta", "gamma"], .root, by decide⟩ := by
  decide +kernel

end Roster

end LintRoster
