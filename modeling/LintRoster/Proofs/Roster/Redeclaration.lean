import LintRoster.Proofs.NameMap
import LintRoster.Proofs.Roster.Layout
import LintRoster.Proofs.Roster.Lookup

/-!
# Declaring a roster again

A roster that a workflow declares in any form can be declared again by a sequence of its names, in
any blank characters and with blank items among them. `Yaml.Value.Restates` says that items hold
names in this way, without asking what is read from them. `redeclared_alike` is the result: the
sequence gives the same roster, because every name of a roster is trimmed, so that a trim takes off
the blank characters around it and nothing else.
-/

namespace LintRoster

namespace Yaml.Value

/-- `Restates items names` says the items of a sequence hold the names, in order: an item is blank,
or its text is the next name with blank characters around it. -/
inductive Restates : List Value → List String → Prop where
  | nil : Restates [] []
  | blank (item items names) :
      item.IsBlank → Restates items names → Restates (item :: items) names
  | name (item text name items names) :
      item.scalarText? = some text → Text.IsPadded text name → Restates items names →
      Restates (item :: items) (name :: names)

/-- Items declare trimmed names exactly if they restate them. -/
theorem itemNames_iff_restates {items : List Value} {names : List String}
    (htrimmed : ∀ name ∈ names, Text.IsTrimmed name) :
    ItemNames items names ↔ Restates items names := by
  constructor
  · intro h
    clear htrimmed
    induction h with
    | nil => exact .nil
    | blank item items names hblank _ ih => exact .blank item items names hblank ih
    | name item text name items names hitem _ hpadded _ ih =>
        exact .name item text name items names hitem hpadded ih
  · intro h
    induction h with
    | nil => exact .nil
    | blank item items names hblank _ ih => exact .blank item items names hblank (ih htrimmed)
    | name item text name items names hitem hpadded _ ih =>
        obtain ⟨hname, hnames⟩ := List.forall_mem_cons.mp htrimmed
        exact .name item text name items names hitem hname hpadded (ih hnames)

/-- A sequence declares trimmed names exactly if its items restate them. -/
theorem declares_iff_restates {v : Value} {items : List Value} {names : List String}
    (hv : v.untagged = .seq items) (htrimmed : ∀ name ∈ names, Text.IsTrimmed name) :
    v.Declares names ↔ Restates items names := by
  rw [← itemNames_iff_restates htrimmed]
  constructor
  · rintro (⟨other, _, hother, hitems⟩ | ⟨text, _, htext, -⟩)
    · rw [hv] at hother
      cases hother
      exact hitems
    · -- A sequence has no text of its own.
      rw [← scalarText?_untagged, hv] at htext
      cases htext
  · exact .items items names hv

end Yaml.Value

namespace Workflow

/-- The workflow with another environment in one scope. -/
def withEnv (w : Workflow) (scope : Scope) (env : Yaml.Value) : Workflow :=
  match scope with
  | .root => { w with env := some env }
  | .job name => { w with jobs := w.jobs.insert name ⟨some env⟩ }

variable {w : Workflow} {scope : Scope} {env : Yaml.Value}

/-- The scope has the environment that it is given. -/
theorem envOf?_withEnv_self : (w.withEnv scope env).envOf? scope = some env := by
  cases scope with
  | root => rfl
  | job name => simp only [withEnv, envOf?, NameMap.get?_insert_self, Option.bind_some]

/-- Any other scope keeps its environment. -/
theorem envOf?_withEnv_other {other : Scope} (h : other ≠ scope) :
    (w.withEnv scope env).envOf? other = w.envOf? other := by
  cases scope with
  | root =>
      cases other with
      | root => exact absurd rfl h
      | job name => rfl
  | job name =>
      cases other with
      | root => rfl
      | job otherName =>
          have hname : otherName ≠ name := fun heq ↦ h (congrArg Scope.job heq)
          simp only [withEnv, envOf?, NameMap.get?_insert_other hname]

/-- In the scope that decides a lookup, another environment with a value under the key decides it as
well. -/
theorem Decides.withEnv {lookup : Lookup} {value other : Yaml.Value}
    (h : w.Decides lookup scope value) (hother : Holds (some env) lookup.key other) :
    (w.withEnv scope env).Decides lookup scope other := by
  have hjob {value : Yaml.Value} (hvalue : Holds (some env) lookup.key value) :
      Holds ((w.withEnv (.job lookup.job) env).envOf? (.job lookup.job)) lookup.key value := by
    rwa [envOf?_withEnv_self]
  cases h with
  | rootFirst _ horder _ => exact .rootFirst other horder hother
  | jobSecond _ horder hroot _ => exact .jobSecond other horder hroot (hjob hother)
  | jobFirst _ horder _ => exact .jobFirst other horder (hjob hother)
  | rootSecond _ horder hempty _ =>
      refine .rootSecond other horder ?_ hother
      rwa [envOf?_withEnv_other (by simp)]

end Workflow

namespace Roster

/-- A roster that a workflow declares in any form is declared by every sequence that restates its
names, under the key and in the scope that decide the lookup, and by no other sequence there,
whatever else the workflow holds and whether it is given or read from a text. In particular the
workflow itself declares the roster again when such a sequence is put under the key, whatever else
the environment comes to hold with it. -/
theorem redeclared_alike (path : Path) (lookup : Lookup) (w : Workflow) (roster : Roster)
    (hroster : ofWorkflow path lookup w = .ok roster) :
    (∀ (w' : Workflow) value items,
      w'.Decides lookup roster.scope value → value.untagged = .seq items →
      (ofWorkflow path lookup w' = .ok roster ↔ Yaml.Value.Restates items roster.names) ∧
      ∀ text, Workflow.parse text path = .ok w' →
        (extract text path lookup = .ok roster ↔ Yaml.Value.Restates items roster.names)) ∧
    ∀ env value items,
      Workflow.Holds (some env) lookup.key value → value.untagged = .seq items →
      Yaml.Value.Restates items roster.names →
      ofWorkflow path lookup (w.withEnv roster.scope env) = .ok roster := by
  have htrimmed := isTrimmed_of_ofWorkflow hroster
  have hagain (w' : Workflow) (value : Yaml.Value) (items : List Yaml.Value)
      (hdecides : w'.Decides lookup roster.scope value) (hvalue : value.untagged = .seq items) :
      ofWorkflow path lookup w' = .ok roster ↔ Yaml.Value.Restates items roster.names := by
    rw [ofWorkflow_of_find? (Workflow.find?_eq_some_iff.mpr hdecides), ofValue_eq_ok_iff,
      and_iff_left rfl, Yaml.Value.names?_eq_ok_iff,
      Yaml.Value.declares_iff_restates hvalue htrimmed]
  constructor
  · intro w' value items hdecides hvalue
    refine ⟨hagain w' value items hdecides hvalue, fun text hparse ↦ ?_⟩
    rw [extract, hparse]
    exact hagain w' value items hdecides hvalue
  · intro env value items henv hvalue hitems
    obtain ⟨first, hfind, -⟩ := ofWorkflow_eq_ok_iff.mp hroster
    have hdecides := (Workflow.find?_eq_some_iff.mp hfind).withEnv henv
    exact (hagain _ value items hdecides hvalue).mpr hitems

namespace Trial

/-- A roster of two names, one of which holds a blank. -/
def twoNames : Roster := ⟨["alpha beta", "42"], .job "build-lints", by decide⟩

/-- The items that the roster is declared by at first. -/
def declaring : List Yaml.Value := [.string "alpha beta ", .number (.int 42)]

/-- Items that hold its names in several kinds of blanks, among blank items. -/
def restating : List Yaml.Value :=
  [.null, .string "\u3000alpha beta\t", .string " \n", .string "42\u00a0", .string ""]

/-- An environment that holds these items, and something else. -/
def restatingEnv : Yaml.Value :=
  .tagged "!env" (.map [(.string "RUSTFLAGS", .null), (.string "LINT_CRATES", .seq restating)])

/-- The items hold the names of the roster. -/
theorem restates_restating : Yaml.Value.Restates restating twoNames.names := by
  refine .blank _ _ _ (.inl rfl) (.name _ _ _ _ _ rfl ?_ (.blank _ _ _ (.inr ?_)
    (.name _ _ _ _ _ rfl ?_ (.blank _ _ _ (.inr ?_) .nil))))
  · exact ⟨['\u3000'], ['\t'], by decide, by decide, rfl⟩
  · exact ⟨" \n", rfl, by decide⟩
  · exact ⟨[], ['\u00a0'], by decide, by decide, rfl⟩
  · exact ⟨"", rfl, by decide⟩

end Trial

open Trial in
/-- The roster of the trial is declared again by its names in blanks, in the environment of the same
job, alone under a tag or with something else. -/
theorem redeclared_alike_trial :
    ofWorkflow ⟨"wf.yml"⟩ settings.workflow.lookup (inJob (.seq declaring)) = .ok twoNames ∧
    ofWorkflow ⟨"wf.yml"⟩ settings.workflow.lookup (inJob (.tagged "!list" (.seq restating))) =
      .ok twoNames ∧
    ofWorkflow ⟨"wf.yml"⟩ settings.workflow.lookup
      ((inJob (.seq declaring)).withEnv (.job "build-lints") restatingEnv) = .ok twoNames := by
  have hroster : ofWorkflow ⟨"wf.yml"⟩ settings.workflow.lookup (inJob (.seq declaring)) =
      .ok twoNames := ofWorkflow_eq_ok_iff.mpr ⟨_, rfl, rfl⟩
  obtain ⟨hagain, henv⟩ := redeclared_alike _ _ _ _ hroster
  have hdecides : (inJob (.tagged "!list" (.seq restating))).Decides settings.workflow.lookup
      (.job "build-lints") (.tagged "!list" (.seq restating)) :=
    Workflow.find?_eq_some_iff.mp rfl
  have hholds : Workflow.Holds (some restatingEnv) "LINT_CRATES" (.seq restating) :=
    .intro _ [(.string "RUSTFLAGS", .null)] [] rfl rfl (by simp) (by simp [Yaml.Value.untagged])
  exact ⟨hroster, (hagain _ _ _ hdecides rfl).1.mpr restates_restating,
    henv _ _ _ hholds rfl restates_restating⟩

open Trial in
/-- The names in a text are extracted again from a sequence of them with a null and blanks in it. -/
example :
    roster? "env:\n  LINT_CRATES: alpha beta\n" =
      some ⟨["alpha", "beta"], .root, by decide⟩ ∧
    roster? "env:\n  LINT_CRATES:\n    - ~\n    - ' alpha '\n    - \"\\t\"\n    - beta\n" =
      some ⟨["alpha", "beta"], .root, by decide⟩ := by
  decide +kernel

end Roster

end LintRoster
