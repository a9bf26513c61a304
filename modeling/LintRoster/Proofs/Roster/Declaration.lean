import LintRoster.Proofs.Text.Words
import LintRoster.Proofs.Yaml.Tags
import LintRoster.Proofs.Roster.Override

/-!
# What a declared value means

`Yaml.Value.Declares` says which names a value declares, one rule for each form that a declaration
can have, and `names?_eq_ok_iff` that the reading of values follows it. `declaration_normalised` is
the result for workflows: every declared value is refused for one of two shapes, or is empty, or
gives a roster of its names, and tags have no say in which.
-/

namespace LintRoster

namespace Yaml.Value

/-- `ItemNames items names` says the items of a sequence declare the names, in order: a blank item
declares none, and any other one declares its text without the blank characters around it. -/
inductive ItemNames : List Value → List String → Prop where
  | nil : ItemNames [] []
  | blank (item items names) :
      item.IsBlank → ItemNames items names → ItemNames (item :: items) names
  | name (item text name items names) :
      item.scalarText? = some text → Text.IsTrimmed name → Text.IsPadded text name →
      ItemNames items names → ItemNames (item :: items) (name :: names)

/-- `v.Declares names` says the value declares the names, in order: a sequence with its items, and a
scalar with the words of its text. -/
inductive Declares (v : Value) : List String → Prop where
  | items (items names) : v.untagged = .seq items → ItemNames items names → Declares v names
  | words (text names) :
      v.scalarText? = some text → Text.Spells text.toList names → Declares v names

/-- A text in front of other texts is a name in front of their names, unless it is blank. -/
theorem itemNames_cons (text : String) (texts : List String) :
    itemNames (text :: texts) =
      if Text.trim text = "" then itemNames texts else Text.trim text :: itemNames texts := by
  simp only [itemNames, List.map_cons, List.filter_cons, bne_iff_ne, ne_eq, ite_not]

/-- The names in the texts of items are the names that the items declare. -/
theorem itemNames_spec {items : List Value} {texts : List String}
    (h : items.map scalarText? = texts.map some) : ItemNames items (itemNames texts) := by
  induction items generalizing texts with
  | nil =>
      obtain rfl : texts = [] := by simpa using h.symm
      exact .nil
  | cons item items ih =>
      cases texts with
      | nil => cases h
      | cons text texts =>
          obtain ⟨hitem, hitems⟩ := List.cons.inj h
          rw [itemNames_cons]
          split
          · next hblank =>
              have htext := Text.trim_eq_empty_iff.mp hblank
              exact .blank _ _ _ (isBlank_iff.mpr ⟨text, hitem, htext⟩) (ih hitems)
          · next hname =>
              exact .name _ _ _ _ _ hitem (Text.isTrimmed_trim hname) (Text.isPadded_trim text)
                (ih hitems)

/-- The names that items declare are those in the texts of the items. -/
theorem ItemNames.exists_texts {items : List Value} {names : List String}
    (h : ItemNames items names) :
    ∃ texts, items.map scalarText? = texts.map some ∧ itemNames texts = names := by
  induction h with
  | nil => exact ⟨[], rfl, rfl⟩
  | blank item items names hblank _ ih =>
      obtain ⟨text, hitem, htext⟩ := isBlank_iff.mp hblank
      obtain ⟨texts, htexts, hnames⟩ := ih
      refine ⟨text :: texts, by simp [hitem, htexts], ?_⟩
      rw [itemNames_cons, if_pos (Text.trim_eq_empty_iff.mpr htext), hnames]
  | name item text name items names hitem htrimmed hpadded _ ih =>
      obtain ⟨texts, htexts, hnames⟩ := ih
      refine ⟨text :: texts, by simp [hitem, htexts], ?_⟩
      rw [itemNames_cons, (Text.trim_eq_iff htrimmed).mpr hpadded, if_neg htrimmed.ne_empty, hnames]

/-- Items declare no names exactly if all of them are blank. -/
theorem itemNames_nil_iff {items : List Value} :
    ItemNames items [] ↔ ∀ item ∈ items, item.IsBlank := by
  induction items with
  | nil => simp [ItemNames.nil]
  | cons item items ih =>
      rw [List.forall_mem_cons, ← ih]
      constructor
      · rintro (_ | ⟨_, _, _, hitem, hitems⟩)
        exact ⟨hitem, hitems⟩
      · rintro ⟨hitem, hitems⟩
        exact .blank item items [] hitem hitems

/-- Every name that items declare is trimmed. -/
theorem ItemNames.isTrimmed {items : List Value} {names : List String} (h : ItemNames items names) :
    ∀ name ∈ names, Text.IsTrimmed name := by
  induction h with
  | nil => simp
  | blank _ _ _ _ _ ih => exact ih
  | name _ _ name _ names _ htrimmed _ _ ih => exact List.forall_mem_cons.mpr ⟨htrimmed, ih⟩

/-- A value that is not a sequence is read by its text. -/
theorem names?_of_scalarText? {v : Value} {text : String} (h : v.scalarText? = some text) :
    v.names? = .ok (Text.words text) := by
  rw [← names?_untagged]
  rw [← scalarText?_untagged] at h
  cases hv : v.untagged with
  | tagged tag w => exact absurd hv (untagged_ne_tagged tag w v)
  | seq | map => simp [hv, scalarText?] at h
  | null | bool | number | string => rw [hv] at h; simp [names?, h]

/-- The names that are read from a value are exactly those that it declares. -/
theorem names?_eq_ok_iff {v : Value} {names : List String} :
    v.names? = .ok names ↔ v.Declares names := by
  constructor
  · intro h
    cases htext : v.scalarText? with
    | some text =>
        rw [names?_of_scalarText? htext, Except.ok.injEq] at h
        exact .words text names htext (Text.spells_iff.mpr h)
    | none =>
        rw [← names?_untagged] at h
        obtain ⟨items, hv⟩ | ⟨entries, hv⟩ := scalarText?_eq_none_iff.mp htext
        · rw [hv, names?] at h
          split at h
          · cases h
          · next texts htexts =>
              cases h
              exact .items items _ hv (itemNames_spec (itemTexts?_eq_some_iff.mp htexts))
        · rw [hv] at h
          cases h
  · rintro (⟨items, _, hv, hitems⟩ | ⟨text, _, htext, hspells⟩)
    · obtain ⟨texts, htexts, hnames⟩ := hitems.exists_texts
      rw [← names?_untagged, hv, names?, itemTexts?_eq_some_iff.mpr htexts, ← hnames]
    · rw [names?_of_scalarText? htext, Text.spells_iff.mp hspells]

/-- A value is refused as a mapping exactly if it is one, and as a sequence of collections exactly
if it is a sequence with a collection in it. It is refused for no other shape. -/
theorem names?_eq_error_iff {v : Value} {shape : Shape} :
    v.names? = .error shape ↔
      (shape = .mapping ∧ ∃ entries, v.untagged = .map entries) ∨
      (shape = .sequenceOfCollections ∧
        ∃ items, v.untagged = .seq items ∧ ∃ item ∈ items, item.IsCollection) := by
  rw [← names?_untagged]
  cases hv : v.untagged with
  | tagged tag w => exact absurd hv (untagged_ne_tagged tag w v)
  | null | bool | number | string => simp [names?, scalarText?]
  | map entries => simp [names?, eq_comm]
  | seq items =>
      simp only [names?, Value.seq.injEq, exists_eq_left', reduceCtorEq, exists_const, and_false,
        false_or, ← itemTexts?_eq_none_iff]
      cases itemTexts? items <;> simp [eq_comm]

/-- A value declares no names exactly if it is a sequence of blank items or blank itself. -/
theorem declares_nil_iff {v : Value} :
    v.Declares [] ↔
      (∃ items, v.untagged = .seq items ∧ ∀ item ∈ items, item.IsBlank) ∨ v.IsBlank := by
  constructor
  · rintro (⟨items, _, hv, hitems⟩ | ⟨text, _, htext, hspells⟩)
    · exact Or.inl ⟨items, hv, itemNames_nil_iff.mp hitems⟩
    · have hblank := Text.words_eq_nil_iff.mp (Text.spells_iff.mp hspells)
      exact Or.inr (isBlank_iff.mpr ⟨text, htext, hblank⟩)
  · rintro (⟨items, hv, hitems⟩ | hblank)
    · exact .items items [] hv (itemNames_nil_iff.mpr hitems)
    · obtain ⟨text, htext, htextblank⟩ := isBlank_iff.mp hblank
      exact .words text [] htext (.blank _ htextblank)

/-- A value that is not nothing is blank exactly if it is a text of blank characters. -/
theorem isBlank_iff_of_not_null {v : Value} (h : v.isNull = false) :
    v.IsBlank ↔ ∃ s, v.untagged = .string s ∧ Text.AllBlank s.toList := by
  refine or_iff_right fun hnull ↦ ?_
  simp [isNull, hnull] at h

/-- Every name that a value declares is trimmed. -/
theorem Declares.isTrimmed {v : Value} {names : List String} (h : v.Declares names) :
    ∀ name ∈ names, Text.IsTrimmed name := by
  cases h with
  | items _ _ _ hitems => exact hitems.isTrimmed
  | words text _ _ hspells =>
      intro name hname
      rw [← Text.spells_iff.mp hspells] at hname
      exact (Text.isWord_of_mem_words hname).isTrimmed

end Yaml.Value

namespace Workflow

/-- An environment without tags around it and without those of the values in it. The keys stay as
they are, because a key under a tag is another key. -/
def bareEnv (env : Yaml.Value) : Yaml.Value :=
  match env.untagged with
  | .map entries => .map (entries.map fun entry ↦ (entry.1, entry.2.bare))
  | other => other

/-- An environment without tags holds the same values, without their tags. -/
theorem cellOf?_bareEnv (env : Option Yaml.Value) (key : String) :
    cellOf? (env.map bareEnv) key = (cellOf? env key).map Yaml.Value.bare := by
  have hentries (v : Yaml.Value) : (bareEnv v).entries? =
      v.entries?.map (List.map fun entry ↦ (entry.1, entry.2.bare)) := by
    unfold bareEnv Yaml.Value.entries?
    cases hv : v.untagged with
    | tagged tag w => exact absurd hv (Yaml.Value.untagged_ne_tagged tag w v)
    | null | bool | number | string | seq | map => rfl
  cases env with
  | none => rfl
  | some v =>
      simp only [cellOf?, Option.map_some, Option.bind_some, hentries]
      cases v.entries? with
      | none => rfl
      | some entries =>
          simp only [Option.map_some, Option.bind_some, Yaml.Value.lookup?, List.find?_map,
            Function.comp_def, Option.map_map]
          cases entries.find? fun entry ↦ entry.1.isText key with
          | none => rfl
          | some entry => simp [Option.filter, Yaml.Value.isNull_bare, apply_ite]

end Workflow

namespace Roster

/-- A value and the value without its tags are the same declaration. -/
theorem ofValue_bare (path : Path) (key : String) (scope : Scope) (value : Yaml.Value) :
    ofValue path key scope value.bare = ofValue path key scope value := by
  simp only [ofValue, Yaml.Value.names?_bare]

/-- The roster of a workflow is what the first scope with a declared value gives. -/
theorem ofWorkflow_eq_findSome? (path : Path) (lookup : Lookup) (w : Workflow) :
    ofWorkflow path lookup w =
      (lookup.scopes.findSome? fun scope ↦
        (w.declared? lookup.key scope).map (ofValue path lookup.key scope)).getD
          (.error (.missingDeclaration path lookup.key lookup.job)) := by
  unfold ofWorkflow Workflow.find?
  induction lookup.scopes with
  | nil => rfl
  | cons scope scopes ih =>
      rw [List.findSome?_cons, List.findSome?_cons]
      cases w.declared? lookup.key scope with
      | none => exact ih
      | some value => rfl

/-- Workflows whose environments differ in tags only have the same roster. -/
theorem ofWorkflow_bareEnv (path : Path) (lookup : Lookup) {w bare : Workflow}
    (h : ∀ scope, bare.envOf? scope = w.envOf? scope ∨
      bare.envOf? scope = (w.envOf? scope).map Workflow.bareEnv) :
    ofWorkflow path lookup bare = ofWorkflow path lookup w := by
  have hscope (scope : Scope) :
      (bare.declared? lookup.key scope).map (ofValue path lookup.key scope) =
        (w.declared? lookup.key scope).map (ofValue path lookup.key scope) := by
    unfold Workflow.declared?
    obtain hsame | hbare := h scope
    · rw [hsame]
    · rw [hbare, Workflow.cellOf?_bareEnv, Option.map_map]
      congr 1
      exact funext (ofValue_bare path lookup.key scope)
  simp only [ofWorkflow_eq_findSome?, hscope]

/-- The roster of a workflow is that of the value that its lookup finds. -/
theorem ofWorkflow_of_find? {path : Path} {lookup : Lookup} {w : Workflow} {scope : Scope}
    {value : Yaml.Value} (h : w.find? lookup = some (scope, value)) :
    ofWorkflow path lookup w = ofValue path lookup.key scope value := by
  rw [ofWorkflow, h]

/-- All names of a roster that a workflow declares are trimmed. -/
theorem isTrimmed_of_ofWorkflow {path : Path} {lookup : Lookup} {w : Workflow} {r : Roster}
    (h : ofWorkflow path lookup w = .ok r) : ∀ name ∈ r.names, Text.IsTrimmed name := by
  obtain ⟨value, -, hnames⟩ := ofWorkflow_eq_ok_iff.mp h
  exact (Yaml.Value.names?_eq_ok_iff.mp hnames).isTrimmed

/-- A value is refused as unsupported exactly if it is a mapping or a sequence with a collection in
it, and the error says which. -/
theorem ofValue_eq_unsupported_iff {path : Path} {key : String} {scope : Scope}
    {value : Yaml.Value} {shape : Shape} :
    ofValue path key scope value = .error (.unsupportedDeclaration path key scope.text shape.text) ↔
      value.names? = .error shape := by
  unfold ofValue
  cases value.names? with
  | error other => cases other <;> cases shape <;> simp [Shape.text]
  | ok names =>
      simp only [reduceCtorEq, iff_false]
      split <;> simp

/-- A value is refused as empty exactly if it declares no names. -/
theorem ofValue_eq_empty_iff {path : Path} {key : String} {scope : Scope} {value : Yaml.Value} :
    ofValue path key scope value = .error (.emptyDeclaration path key) ↔ value.names? = .ok [] := by
  unfold ofValue
  cases value.names? with
  | error shape => simp
  | ok names => by_cases hnames : names = [] <;> simp [hnames]

/-- No value is refused with the third shape. -/
theorem ofValue_ne_collection {path : Path} {key : String} {scope : Scope} {value : Yaml.Value}
    (p : Path) (k s : String) :
    ofValue path key scope value ≠ .error (.unsupportedDeclaration p k s "a collection") := by
  unfold ofValue
  cases hnames : value.names? with
  | error shape =>
      obtain ⟨rfl, -⟩ | ⟨rfl, -⟩ := Yaml.Value.names?_eq_error_iff.mp hnames <;> simp [Shape.text]
  | ok names =>
      simp only [ne_eq]
      split <;> simp

/-- Every value that is not nothing can be declared, and what a workflow that declares it gives is
decided by its shape without tags. A mapping and a sequence with a collection in it are refused as
what they are, and no other value is. A sequence of blank items, an empty one too, and a text of
blank characters are refused as empty. Any other value gives a roster of exactly the names that it
declares, in their order and with repetitions, and each of these is trimmed. Without its tags, those
of the items of a sequence and those around the environment, the value gives the same. -/
theorem declaration_normalised (path : Path) (lookup : Lookup) (value : Yaml.Value)
    (hvalue : value.isNull = false) :
    (Workflow.declaring lookup.key value).find? lookup = some (.root, value) ∧
    ∀ w scope, w.find? lookup = some (scope, value) →
      (∀ text, Workflow.parse text path = .ok w →
        extract text path lookup = ofWorkflow path lookup w) ∧
      (ofWorkflow path lookup w =
          .error (.unsupportedDeclaration path lookup.key scope.text "a mapping") ↔
        ∃ entries, value.untagged = .map entries) ∧
      (ofWorkflow path lookup w =
          .error (.unsupportedDeclaration path lookup.key scope.text "a sequence of collections") ↔
        ∃ items, value.untagged = .seq items ∧ ∃ item ∈ items, item.IsCollection) ∧
      (∀ p k s, ofWorkflow path lookup w ≠
        .error (.unsupportedDeclaration p k s "a collection")) ∧
      (ofWorkflow path lookup w = .error (.emptyDeclaration path lookup.key) ↔
        (∃ items, value.untagged = .seq items ∧ ∀ item ∈ items, item.IsBlank) ∨
          ∃ s, value.untagged = .string s ∧ Text.AllBlank s.toList) ∧
      (∀ roster, ofWorkflow path lookup w = .ok roster ↔
        roster.scope = scope ∧ value.Declares roster.names) ∧
      (∀ roster, ofWorkflow path lookup w = .ok roster →
        roster.names ≠ [] ∧ ∀ name ∈ roster.names, Text.IsTrimmed name) ∧
      ((∃ entries, value.untagged = .map entries) ∨
        (∃ items, value.untagged = .seq items ∧ ∃ item ∈ items, item.IsCollection) ∨
        (∃ items, value.untagged = .seq items ∧ ∀ item ∈ items, item.IsBlank) ∨
        (∃ s, value.untagged = .string s ∧ Text.AllBlank s.toList) ∨
        ∃ roster, ofWorkflow path lookup w = .ok roster) ∧
      ∀ stripped : Workflow,
        (∀ scope, stripped.envOf? scope = w.envOf? scope ∨
          stripped.envOf? scope = (w.envOf? scope).map Workflow.bareEnv) →
        ofWorkflow path lookup stripped = ofWorkflow path lookup w := by
  refine ⟨Workflow.find?_declaring lookup hvalue, fun w scope hfind ↦ ?_⟩
  have hanswer : ofWorkflow path lookup w = ofValue path lookup.key scope value :=
    ofWorkflow_of_find? hfind
  have hdeclares (roster : Roster) : ofWorkflow path lookup w = .ok roster ↔
      roster.scope = scope ∧ value.Declares roster.names := by
    rw [hanswer, ofValue_eq_ok_iff, Yaml.Value.names?_eq_ok_iff, and_comm]
  have hempty : ofWorkflow path lookup w = .error (.emptyDeclaration path lookup.key) ↔
      (∃ items, value.untagged = .seq items ∧ ∀ item ∈ items, item.IsBlank) ∨
        ∃ s, value.untagged = .string s ∧ Text.AllBlank s.toList := by
    rw [hanswer, ofValue_eq_empty_iff, Yaml.Value.names?_eq_ok_iff, Yaml.Value.declares_nil_iff,
      Yaml.Value.isBlank_iff_of_not_null hvalue]
  refine ⟨?_, ?_, ?_, ?_, hempty, hdeclares, ?_, ?_, ?_⟩
  · intro text hparse
    rw [extract, hparse]
  · have hshape : Shape.mapping.text = "a mapping" := rfl
    rw [hanswer, ← hshape, ofValue_eq_unsupported_iff]
    simp [Yaml.Value.names?_eq_error_iff]
  · have hshape : Shape.sequenceOfCollections.text = "a sequence of collections" := rfl
    rw [hanswer, ← hshape, ofValue_eq_unsupported_iff]
    simp [Yaml.Value.names?_eq_error_iff]
  · rw [hanswer]
    exact ofValue_ne_collection
  · intro roster hroster
    exact ⟨roster.names_ne_nil, ((hdeclares roster).mp hroster).2.isTrimmed⟩
  · -- The reading of the value decides between the cases: an error, no names, or some.
    cases hnames : value.names? with
    | error shape =>
        obtain ⟨-, hmapping⟩ | ⟨-, hcollection⟩ := Yaml.Value.names?_eq_error_iff.mp hnames
        · exact Or.inl hmapping
        · exact Or.inr (Or.inl hcollection)
    | ok names =>
        by_cases hnil : names = []
        · have hrefused := @ofValue_eq_empty_iff path lookup.key scope value
          rw [hnil, ← hrefused, ← hanswer, hempty] at hnames
          exact Or.inr (Or.inr (hnames.imp_right Or.inl))
        · exact Or.inr (Or.inr (Or.inr (Or.inr ⟨⟨names, scope, hnil⟩,
            (hdeclares _).mpr ⟨rfl, Yaml.Value.names?_eq_ok_iff.mp hnames⟩⟩)))
  · intro stripped hstripped
    exact ofWorkflow_bareEnv path lookup hstripped

namespace Trial

/-- A sequence under a tag, with a blank item and one that is nothing among its items. -/
def values : Yaml.Value :=
  .tagged "!list" (.seq [.string " beta ", .null, .tagged "!name" (.string "alpha beta"),
    .string "\t", .string "beta"])

/-- The workflow that declares the sequence, with a tag around its environment. -/
def tagged : Workflow :=
  ⟨some (.tagged "!env" (.map [(.string "LINT_CRATES", values)])), .empty⟩

/-- The same workflow without tags. -/
def plain : Workflow :=
  .declaring "LINT_CRATES" (.seq [.string " beta ", .null, .string "alpha beta", .string "\t",
    .string "beta"])

end Trial

open Trial in
/-- The sequence of the trial gives the names in its items that are not blank, with or without its
tags, and is neither refused nor empty. -/
theorem declaration_normalised_trial :
    values.isNull = false ∧
    ofWorkflow ⟨"wf.yml"⟩ settings.workflow.lookup tagged =
      .ok ⟨["beta", "alpha beta", "beta"], .root, by decide⟩ ∧
    ofWorkflow ⟨"wf.yml"⟩ settings.workflow.lookup plain =
      .ok ⟨["beta", "alpha beta", "beta"], .root, by decide⟩ ∧
    ¬ ∃ items, values.untagged = .seq items ∧ ∃ item ∈ items, item.IsCollection := by
  have hnull : values.isNull = false := rfl
  have hfind : tagged.find? settings.workflow.lookup = some (.root, values) := rfl
  obtain ⟨-, hworkflow⟩ :=
    declaration_normalised ⟨"wf.yml"⟩ settings.workflow.lookup values hnull
  obtain ⟨-, -, hcollections, -, -, hroster, -, -, hstripped⟩ := hworkflow tagged .root hfind
  have hnames : values.names? = .ok ["beta", "alpha beta", "beta"] := by rfl
  have htagged := (hroster ⟨["beta", "alpha beta", "beta"], .root, by decide⟩).mpr
    ⟨rfl, Yaml.Value.names?_eq_ok_iff.mp hnames⟩
  refine ⟨hnull, htagged, ?_, ?_⟩
  · rw [← htagged]
    refine hstripped plain fun scope ↦ ?_
    cases scope with
    | root => exact Or.inr rfl
    | job name => exact Or.inl rfl
  · rw [← hcollections, htagged]
    simp

end Roster

end LintRoster
