import LintRoster.Proofs.Roster.Declaration

/-!
# What a lookup depends on

A lookup looks at two cells of a workflow: what stands under the key in the environment of the
workflow, and what stands under it in the environment of one job. `Workflow.Holds` says what a cell
holds and `Workflow.Decides` which cell is decisive. `lookup_decided_by_cells` shows that nothing
else of a workflow matters, and that no lookup goes on to the second cell once the first holds a
value, be it a good one or not.
-/

namespace LintRoster

namespace Yaml.Value

/-- `v.RefusedAs shape` says a value cannot declare names, and what its shape is called. -/
inductive RefusedAs (v : Value) : String → Prop where
  | mapping (entries) : v.untagged = .map entries → RefusedAs v "a mapping"
  | collections (items) :
      v.untagged = .seq items → (∃ item ∈ items, item.IsCollection) →
      RefusedAs v "a sequence of collections"

/-- A value is refused for the shape whose name it is refused as. -/
theorem refusedAs_iff {v : Value} {text : String} :
    v.RefusedAs text ↔ ∃ shape : Shape, text = shape.text ∧ v.names? = .error shape := by
  simp only [names?_eq_error_iff]
  constructor
  · rintro (⟨entries, hv⟩ | ⟨items, hv, hcollection⟩)
    · exact ⟨.mapping, rfl, Or.inl ⟨rfl, entries, hv⟩⟩
    · exact ⟨.sequenceOfCollections, rfl, Or.inr ⟨rfl, items, hv, hcollection⟩⟩
  · rintro ⟨shape, rfl, ⟨rfl, entries, hv⟩ | ⟨rfl, items, hv, hcollection⟩⟩
    · exact .mapping entries hv
    · exact .collections items hv hcollection

/-- A value is a given text exactly if it is the string with that text. -/
theorem isText_iff {name : String} {v : Value} : v.isText name = true ↔ v = .string name := by
  cases v <;> simp [isText]

/-- A value is nothing exactly if it is nothing without its tags. -/
theorem isNull_iff {v : Value} : v.isNull = true ↔ v.untagged = .null := by
  unfold isNull
  cases v.untagged <;> simp

/-- The entries of a value are those of the mapping that it is without its tags. -/
theorem entries?_eq_some_iff {v : Value} {entries : List (Value × Value)} :
    v.entries? = some entries ↔ v.untagged = .map entries := by
  unfold entries?
  cases v.untagged <;> simp

/-- The value that is found under a key is that of the first entry with this key. -/
theorem lookup?_eq_some_iff {key : String} {value : Value} {entries : List (Value × Value)} :
    lookup? key entries = some value ↔
      ∃ before after, entries = before ++ (.string key, value) :: after ∧
        ∀ entry ∈ before, entry.1 ≠ .string key := by
  rw [lookup?, Option.map_eq_some_iff]
  constructor
  · rintro ⟨⟨k, v⟩, hfound, rfl⟩
    obtain ⟨hkey, before, after, hsplit, hbefore⟩ := List.find?_eq_some_iff_append.mp hfound
    obtain rfl := isText_iff.mp hkey
    refine ⟨before, after, hsplit, fun entry hentry heq ↦ ?_⟩
    simpa [isText_iff.mpr heq] using hbefore entry hentry
  · rintro ⟨before, after, rfl, hbefore⟩
    refine ⟨_, List.find?_eq_some_iff_append.mpr ⟨isText_iff.mpr rfl, before, after, rfl, ?_⟩, rfl⟩
    intro entry hentry
    rw [Bool.not_eq_true', ← Bool.not_eq_true, isText_iff]
    exact hbefore entry hentry

end Yaml.Value

namespace Workflow

/-- `Holds env key value` says an environment is a mapping, under any tags, whose first entry with
the key holds the value, and that the value is not nothing. The key of the entry is a text without a
tag. -/
inductive Holds (env : Option Yaml.Value) (key : String) (value : Yaml.Value) : Prop where
  | intro (v before after) :
      env = some v → v.untagged = .map (before ++ (.string key, value) :: after) →
      (∀ entry ∈ before, entry.1 ≠ .string key) → value.untagged ≠ .null → Holds env key value

/-- `w.Decides lookup scope value` says the value stands in the first scope, in the order of the
lookup, that holds any value. -/
inductive Decides (w : Workflow) (lookup : Lookup) : Scope → Yaml.Value → Prop where
  | rootFirst (value) :
      lookup.order = .rootFirst → Holds w.env lookup.key value → Decides w lookup .root value
  | jobSecond (value) :
      lookup.order = .rootFirst → (∀ other, ¬ Holds w.env lookup.key other) →
      Holds (w.envOf? (.job lookup.job)) lookup.key value →
      Decides w lookup (.job lookup.job) value
  | jobFirst (value) :
      lookup.order = .jobFirst → Holds (w.envOf? (.job lookup.job)) lookup.key value →
      Decides w lookup (.job lookup.job) value
  | rootSecond (value) :
      lookup.order = .jobFirst → (∀ other, ¬ Holds (w.envOf? (.job lookup.job)) lookup.key other) →
      Holds w.env lookup.key value → Decides w lookup .root value

section Cells

variable {env : Option Yaml.Value} {key : String} {value : Yaml.Value}

/-- The cell of an environment is read as what it holds. -/
theorem cellOf?_eq_some_iff : cellOf? env key = some value ↔ Holds env key value := by
  rw [cellOf?, Option.filter_eq_some_iff, Option.bind_eq_some_iff]
  simp only [Option.bind_eq_some_iff, Yaml.Value.entries?_eq_some_iff,
    Yaml.Value.lookup?_eq_some_iff, Bool.not_eq_true', ← Bool.not_eq_true, Yaml.Value.isNull_iff]
  constructor
  · rintro ⟨⟨_, ⟨v, henv, hentries⟩, before, after, rfl, hbefore⟩, hvalue⟩
    exact .intro v before after henv hentries hbefore hvalue
  · rintro ⟨v, before, after, henv, hentries, hbefore, hvalue⟩
    exact ⟨⟨_, ⟨v, henv, hentries⟩, before, after, rfl, hbefore⟩, hvalue⟩

/-- The cell of an environment is read as none exactly if it holds no value. -/
theorem cellOf?_eq_none_iff : cellOf? env key = none ↔ ∀ value, ¬ Holds env key value := by
  simp only [Option.eq_none_iff_forall_ne_some, ne_eq, cellOf?_eq_some_iff]

/-- Two cells that hold the same are read alike. -/
theorem cellOf?_congr {other : Option Yaml.Value}
    (h : ∀ value, Holds other key value ↔ Holds env key value) :
    cellOf? other key = cellOf? env key := by
  ext value
  rw [cellOf?_eq_some_iff, cellOf?_eq_some_iff, h]

end Cells

section Lookups

variable {w : Workflow} {lookup : Lookup}

/-- A lookup is a choice between two cells. -/
theorem find?_eq_or (w : Workflow) (lookup : Lookup) :
    w.find? lookup =
      let root := (cellOf? w.env lookup.key).map (Scope.root, ·)
      let job := (cellOf? (w.envOf? (.job lookup.job)) lookup.key).map (Scope.job lookup.job, ·)
      match lookup.order with
      | .rootFirst => root.or job
      | .jobFirst => job.or root := by
  have hroot : w.declared? lookup.key .root = cellOf? w.env lookup.key := rfl
  have hjob : w.declared? lookup.key (.job lookup.job) =
      cellOf? (w.envOf? (.job lookup.job)) lookup.key := rfl
  unfold find? Lookup.scopes
  cases lookup.order with
  | rootFirst | jobFirst =>
      simp only [List.findSome?_cons, List.findSome?_nil, hroot, hjob]
      cases cellOf? w.env lookup.key <;>
        cases cellOf? (w.envOf? (.job lookup.job)) lookup.key <;> rfl

/-- A lookup finds exactly the value that decides, in its scope. -/
theorem find?_eq_some_iff {scope : Scope} {value : Yaml.Value} :
    w.find? lookup = some (scope, value) ↔ w.Decides lookup scope value := by
  constructor
  · intro h
    rw [find?_eq_or] at h
    cases horder : lookup.order with
    | rootFirst =>
        simp only [horder, Option.or_eq_some_iff, Option.map_eq_some_iff, Option.map_eq_none_iff,
          Prod.mk.injEq] at h
        obtain ⟨_, hroot, rfl, rfl⟩ | ⟨hroot, _, hjob, rfl, rfl⟩ := h
        · exact .rootFirst _ horder (cellOf?_eq_some_iff.mp hroot)
        · exact .jobSecond _ horder (cellOf?_eq_none_iff.mp hroot) (cellOf?_eq_some_iff.mp hjob)
    | jobFirst =>
        simp only [horder, Option.or_eq_some_iff, Option.map_eq_some_iff, Option.map_eq_none_iff,
          Prod.mk.injEq] at h
        obtain ⟨_, hjob, rfl, rfl⟩ | ⟨hjob, _, hroot, rfl, rfl⟩ := h
        · exact .jobFirst _ horder (cellOf?_eq_some_iff.mp hjob)
        · exact .rootSecond _ horder (cellOf?_eq_none_iff.mp hjob) (cellOf?_eq_some_iff.mp hroot)
  · intro h
    rw [find?_eq_or]
    cases h with
    | rootFirst _ horder hroot => simp [horder, cellOf?_eq_some_iff.mpr hroot]
    | jobSecond _ horder hroot hjob =>
        simp [horder, cellOf?_eq_none_iff.mpr hroot, cellOf?_eq_some_iff.mpr hjob]
    | jobFirst _ horder hjob => simp [horder, cellOf?_eq_some_iff.mpr hjob]
    | rootSecond _ horder hjob hroot =>
        simp [horder, cellOf?_eq_none_iff.mpr hjob, cellOf?_eq_some_iff.mpr hroot]

/-- A lookup finds nothing exactly if neither cell holds a value. -/
theorem find?_eq_none_iff :
    w.find? lookup = none ↔
      (∀ value, ¬ Holds w.env lookup.key value) ∧
      ∀ value, ¬ Holds (w.envOf? (.job lookup.job)) lookup.key value := by
  rw [find?_eq_or, ← cellOf?_eq_none_iff, ← cellOf?_eq_none_iff]
  cases lookup.order with
  | rootFirst => simp
  | jobFirst => simp [and_comm]

/-- Workflows whose two cells hold the same answer a lookup alike. -/
theorem find?_congr {other : Workflow}
    (hroot : ∀ value, Holds other.env lookup.key value ↔ Holds w.env lookup.key value)
    (hjob : ∀ value, Holds (other.envOf? (.job lookup.job)) lookup.key value ↔
      Holds (w.envOf? (.job lookup.job)) lookup.key value) :
    other.find? lookup = w.find? lookup := by
  rw [find?_eq_or, find?_eq_or, cellOf?_congr hroot, cellOf?_congr hjob]

/-- If a cell holds nothing, the order of the lookup does not matter. -/
theorem find?_of_single_cell
    (h : (∀ value, ¬ Holds w.env lookup.key value) ∨
      ∀ value, ¬ Holds (w.envOf? (.job lookup.job)) lookup.key value) (order : LookupOrder) :
    w.find? { lookup with order } = w.find? lookup := by
  have hcomm : ∀ root job : Option (Scope × Yaml.Value), root = none ∨ job = none →
      root.or job = job.or root := by
    rintro root job (rfl | rfl) <;> simp
  have hnone : (cellOf? w.env lookup.key).map (Scope.root, ·) = none ∨
      (cellOf? (w.envOf? (.job lookup.job)) lookup.key).map (Scope.job lookup.job, ·) = none := by
    rw [Option.map_eq_none_iff, Option.map_eq_none_iff]
    exact h.imp cellOf?_eq_none_iff.mpr cellOf?_eq_none_iff.mpr
  have hswap := hcomm _ _ hnone
  rw [find?_eq_or, find?_eq_or]
  cases order <;> cases lookup.order <;> simp only [hswap]

end Lookups

end Workflow

namespace Roster

/-- A declaration is refused as unsupported with the path, the key and the scope that were asked
for, and with the name of its value's shape. -/
theorem ofValue_eq_unsupported {path p : Path} {key k s text : String} {scope : Scope}
    {value : Yaml.Value} :
    ofValue path key scope value = .error (.unsupportedDeclaration p k s text) ↔
      p = path ∧ k = key ∧ s = scope.text ∧ value.RefusedAs text := by
  rw [Yaml.Value.refusedAs_iff, ofValue]
  cases value.names? with
  | error shape =>
      simp only [Except.error.injEq, Error.unsupportedDeclaration.injEq]
      constructor
      · rintro ⟨rfl, rfl, rfl, rfl⟩
        exact ⟨rfl, rfl, rfl, shape, rfl, rfl⟩
      · rintro ⟨rfl, rfl, rfl, _, rfl, rfl⟩
        exact ⟨rfl, rfl, rfl, rfl⟩
  | ok names =>
      simp only [reduceCtorEq, and_false]
      split <;> simp

/-- A value that is there never counts as missing. -/
theorem ofValue_ne_missing {path : Path} {key : String} {scope : Scope} {value : Yaml.Value}
    (p : Path) (k j : String) :
    ofValue path key scope value ≠ .error (.missingDeclaration p k j) := by
  unfold ofValue
  split
  · simp
  · split <;> simp

/-- Workflows that answer a lookup alike give the same roster. -/
theorem ofWorkflow_congr {path : Path} {lookup lookup' : Lookup} {w w' : Workflow}
    (hkey : lookup'.key = lookup.key) (hjob : lookup'.job = lookup.job)
    (hfind : w'.find? lookup' = w.find? lookup) :
    ofWorkflow path lookup' w' = ofWorkflow path lookup w := by
  rw [ofWorkflow, ofWorkflow, hfind, hkey, hjob]

/-- A declaration is missing exactly if the lookup finds nothing, and the error names what was
looked up. -/
theorem ofWorkflow_eq_missing_iff {path p : Path} {lookup : Lookup} {w : Workflow} {k j : String} :
    ofWorkflow path lookup w = .error (.missingDeclaration p k j) ↔
      (p = path ∧ k = lookup.key ∧ j = lookup.job) ∧ w.find? lookup = none := by
  unfold ofWorkflow
  cases w.find? lookup with
  | none =>
      simp only [Except.error.injEq, Error.missingDeclaration.injEq, and_true]
      constructor <;> rintro ⟨rfl, rfl, rfl⟩ <;> exact ⟨rfl, rfl, rfl⟩
  | some found => simp [ofValue_ne_missing]

/-- What a workflow gives depends on nothing but the two cells of the lookup. The first of them, in
the order of the lookup, that holds a value decides alone: it gives a roster of the names that the
value declares, or it is refused as empty or as unsupported, and the roster and the second error
name its scope. The declaration is missing exactly if neither cell holds a value, and the order of
the lookup matters only if both do. -/
theorem lookup_decided_by_cells (path : Path) (lookup : Lookup) (w : Workflow) :
    (∀ other : Workflow,
      (∀ value, Workflow.Holds other.env lookup.key value ↔
        Workflow.Holds w.env lookup.key value) →
      (∀ value, Workflow.Holds (other.envOf? (.job lookup.job)) lookup.key value ↔
        Workflow.Holds (w.envOf? (.job lookup.job)) lookup.key value) →
      ofWorkflow path lookup other = ofWorkflow path lookup w ∧
      ∀ text text', Workflow.parse text path = .ok w → Workflow.parse text' path = .ok other →
        extract text' path lookup = extract text path lookup) ∧
    (∀ scope value, w.Decides lookup scope value →
      (∀ roster, ofWorkflow path lookup w = .ok roster ↔
        roster.scope = scope ∧ value.Declares roster.names) ∧
      (ofWorkflow path lookup w = .error (.emptyDeclaration path lookup.key) ↔
        value.Declares []) ∧
      (∀ p k s shape,
        ofWorkflow path lookup w = .error (.unsupportedDeclaration p k s shape) ↔
          p = path ∧ k = lookup.key ∧ s = scope.text ∧ value.RefusedAs shape) ∧
      ∀ (other : Workflow) (order : LookupOrder),
        other.Decides { lookup with order } scope value →
        ofWorkflow path { lookup with order } other = ofWorkflow path lookup w) ∧
    (∀ p k j, ofWorkflow path lookup w = .error (.missingDeclaration p k j) ↔
      (p = path ∧ k = lookup.key ∧ j = lookup.job) ∧
      (∀ value, ¬ Workflow.Holds w.env lookup.key value) ∧
      ∀ value, ¬ Workflow.Holds (w.envOf? (.job lookup.job)) lookup.key value) ∧
    (∀ order : LookupOrder,
      ((∀ value, ¬ Workflow.Holds w.env lookup.key value) ∨
        ∀ value, ¬ Workflow.Holds (w.envOf? (.job lookup.job)) lookup.key value) →
      ofWorkflow path { lookup with order } w = ofWorkflow path lookup w) := by
  refine ⟨?_, ?_, ?_, ?_⟩
  · intro other hroot hjob
    have hagree : ofWorkflow path lookup other = ofWorkflow path lookup w :=
      ofWorkflow_congr rfl rfl (Workflow.find?_congr hroot hjob)
    refine ⟨hagree, fun text text' hparse hparse' ↦ ?_⟩
    rw [extract, extract, hparse, hparse']
    exact hagree
  · intro scope value hdecides
    have hanswer : ofWorkflow path lookup w = ofValue path lookup.key scope value :=
      ofWorkflow_of_find? (Workflow.find?_eq_some_iff.mpr hdecides)
    refine ⟨?_, ?_, ?_, ?_⟩
    · intro roster
      rw [hanswer, ofValue_eq_ok_iff, Yaml.Value.names?_eq_ok_iff, and_comm]
    · rw [hanswer, ofValue_eq_empty_iff, Yaml.Value.names?_eq_ok_iff]
    · intro p k s shape
      rw [hanswer, ofValue_eq_unsupported]
    · intro other order hother
      rw [hanswer]
      exact ofWorkflow_of_find? (Workflow.find?_eq_some_iff.mpr hother)
  · intro p k j
    rw [ofWorkflow_eq_missing_iff, Workflow.find?_eq_none_iff]
  · intro order hsingle
    exact ofWorkflow_congr rfl rfl (Workflow.find?_of_single_cell hsingle order)

namespace Trial

/-- A list in the environment of one job. -/
def jobEnv : Yaml.Value := .map [(.string "LINT_CRATES", .string "alpha")]

/-- A workflow with a blank text in its own environment and a list in that of its job. -/
def blankFirst : Workflow :=
  ⟨some (.map [(.string "LINT_CRATES", .string "  ")]), ⟨[("build-lints", ⟨some jobEnv⟩)], by simp⟩⟩

/-- A workflow with the same two cells among other entries, other environments and other jobs. -/
def amongOthers : Workflow :=
  ⟨some (.tagged "!shared" (.map [(.bool true, .null), (.string "LINT_CRATES", .string "  ")])),
    ⟨[("build-lints", ⟨some jobEnv⟩), ("release", ⟨some (.string "LINT_CRATES")⟩)], by decide⟩⟩

end Trial

open Trial in
/-- The blank text of the trial is refused as empty although the job holds a list, in both
workflows, and the list is found by a lookup that begins with the job. -/
theorem lookup_decided_trial :
    ofWorkflow ⟨"wf.yml"⟩ ⟨"LINT_CRATES", "build-lints", .rootFirst⟩ amongOthers =
      .error (.emptyDeclaration ⟨"wf.yml"⟩ "LINT_CRATES") ∧
    ofWorkflow ⟨"wf.yml"⟩ ⟨"LINT_CRATES", "build-lints", .jobFirst⟩ blankFirst =
      .ok ⟨["alpha"], .job "build-lints", by decide⟩ := by
  have hroot : Workflow.Holds blankFirst.env "LINT_CRATES" (.string "  ") :=
    .intro _ [] [] rfl rfl (by simp) (by simp [Yaml.Value.untagged])
  have hjob : Workflow.Holds (blankFirst.envOf? (.job "build-lints")) "LINT_CRATES"
      (.string "alpha") :=
    .intro jobEnv [] [] rfl rfl (by simp) (by simp [Yaml.Value.untagged])
  have hblank : (Yaml.Value.string "  ").Declares [] :=
    Yaml.Value.names?_eq_ok_iff.mp (by rfl)
  have halpha : (Yaml.Value.string "alpha").Declares ["alpha"] :=
    Yaml.Value.names?_eq_ok_iff.mp (by rfl)
  constructor
  · obtain ⟨hagree, hdecided, -, -⟩ := lookup_decided_by_cells ⟨"wf.yml"⟩
      ⟨"LINT_CRATES", "build-lints", .rootFirst⟩ blankFirst
    obtain ⟨hsame, -⟩ := hagree amongOthers
      (fun value ↦ by
        rw [← Workflow.cellOf?_eq_some_iff, ← Workflow.cellOf?_eq_some_iff]
        rfl)
      (fun value ↦ by
        rw [← Workflow.cellOf?_eq_some_iff, ← Workflow.cellOf?_eq_some_iff]
        rfl)
    rw [hsame]
    exact (hdecided .root _ (.rootFirst _ rfl hroot)).2.1.mpr hblank
  · obtain ⟨-, hdecided, -, -⟩ := lookup_decided_by_cells ⟨"wf.yml"⟩
      ⟨"LINT_CRATES", "build-lints", .jobFirst⟩ blankFirst
    exact ((hdecided _ _ (.jobFirst _ rfl hjob)).1 _).mpr ⟨rfl, halpha⟩

end Roster

end LintRoster
