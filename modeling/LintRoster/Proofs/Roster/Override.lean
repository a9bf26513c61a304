import LintRoster.Emulator.Invocation
import LintRoster.Proofs.Text.Words
import LintRoster.Roster.Extraction
import LintRoster.Settings.Rules

/-!
# Rosters in the environment of a job

The command for a job puts the names of a roster into one argument, with single spaces between
them. `override_words_iff` says when a reader that cuts this argument into words, or a workflow that
declares the joined names, gives the names back: exactly if no name holds a blank character. Only
the items of a sequence can name crates with blanks inside.
-/

namespace LintRoster

/-- A text cut at its first equals sign, which is in neither part. -/
def cutAtEquals (text : String) : String × String :=
  (.ofList (text.toList.takeWhile (· != '=')), .ofList ((text.toList.dropWhile (· != '=')).drop 1))

/-- A key without an equals sign and the value behind the first one are what the cut gives. -/
theorem cutAtEquals_append {key : String} (hkey : '=' ∉ key.toList) (value : String) :
    cutAtEquals (key ++ "=" ++ value) = (key, value) := by
  have hall : ∀ c ∈ key.toList, (c != '=') = true := by
    intro c hc
    simp only [bne_iff_ne, ne_eq]
    rintro rfl
    exact hkey hc
  simp [cutAtEquals, List.takeWhile_append_of_pos hall, List.dropWhile_append_of_pos hall]

namespace Yaml.Value

/-- No name in the items of a sequence is empty. -/
theorem ne_empty_of_mem_itemNames {texts : List String} {name : String}
    (h : name ∈ itemNames texts) : name ≠ "" := by
  simpa using (List.mem_filter.mp h).2

/-- No name that a value declares is empty, and if the value is no sequence, the names are words. -/
theorem names?_spec : ∀ (value : Value) {names : List String}, value.names? = .ok names →
    ∀ name ∈ names, name ≠ "" ∧ ((∀ items, value.untagged ≠ .seq items) → Text.IsWord name)
  | .seq items, names, h, name, hname => by
      rw [names?] at h
      split at h
      · cases h
      · cases h
        exact ⟨ne_empty_of_mem_itemNames hname, fun hseq ↦ absurd rfl (hseq items)⟩
  | .map _, _, h, _, _ => by cases h
  | .tagged _ value, names, h, name, hname => by
      rw [names?] at h
      exact names?_spec value h name hname
  | .null, names, h, name, hname | .bool _, names, h, name, hname
  | .number _, names, h, name, hname | .string _, names, h, name, hname => by
      cases h
      have hword := Text.isWord_of_mem_words hname
      exact ⟨hword.ne_empty, fun _ ↦ hword⟩

end Yaml.Value

namespace Roster

/-- What a value declares is a roster exactly if the value names something. -/
theorem ofValue_eq_ok_iff {path : Path} {key : String} {scope : Scope} {value : Yaml.Value}
    {roster : Roster} :
    ofValue path key scope value = .ok roster ↔
      value.names? = .ok roster.names ∧ roster.scope = scope := by
  unfold ofValue
  cases value.names? with
  | error shape => simp
  | ok names =>
      simp only [Except.ok.injEq]
      by_cases hnames : names = []
      · simp only [hnames, dif_pos, reduceCtorEq, false_iff, not_and]
        intro hempty
        exact absurd hempty.symm roster.names_ne_nil
      · simp only [hnames, dif_neg, not_false_eq_true, Except.ok.injEq]
        constructor
        · rintro rfl
          exact ⟨rfl, rfl⟩
        · rintro ⟨rfl, rfl⟩
          rfl

/-- The roster of a workflow is declared by the value that its lookup finds. -/
theorem ofWorkflow_eq_ok_iff {path : Path} {lookup : Lookup} {w : Workflow} {roster : Roster} :
    ofWorkflow path lookup w = .ok roster ↔
      ∃ value, w.find? lookup = some (roster.scope, value) ∧ value.names? = .ok roster.names := by
  unfold ofWorkflow
  split
  · next hfind => simp [hfind]
  · next scope value hfind =>
      rw [ofValue_eq_ok_iff, hfind]
      constructor
      · rintro ⟨hnames, rfl⟩
        exact ⟨value, rfl, hnames⟩
      · rintro ⟨_, hfound, hnames⟩
        cases hfound
        exact ⟨hnames, rfl⟩

/-- A roster that is extracted from a text is declared by a value of the workflow. -/
theorem exists_of_extract_eq_ok {text : String} {path : Path} {lookup : Lookup} {roster : Roster}
    (h : extract text path lookup = .ok roster) :
    ∃ workflow value, Workflow.parse text path = .ok workflow ∧
      workflow.find? lookup = some (roster.scope, value) ∧ value.names? = .ok roster.names := by
  unfold extract at h
  split at h
  · cases h
  · next workflow hparse =>
      obtain ⟨value, hfind, hnames⟩ := ofWorkflow_eq_ok_iff.mp h
      exact ⟨workflow, value, hparse, hfind, hnames⟩

end Roster

/-- The workflow that declares a value under a key in its own environment, and nothing else. -/
def Workflow.declaring (key : String) (value : Yaml.Value) : Workflow :=
  ⟨some (.map [(.string key, value)]), .empty⟩

/-- What a workflow declares is found in its own environment, in whichever order it is looked up. -/
theorem Workflow.find?_declaring (lookup : Lookup) {value : Yaml.Value}
    (hvalue : value.isNull = false) :
    (declaring lookup.key value).find? lookup = some (.root, value) := by
  have hroot : (declaring lookup.key value).declared? lookup.key .root = some value := by
    simp [declared?, cellOf?, envOf?, declaring, Yaml.Value.entries?, Yaml.Value.untagged,
      Yaml.Value.lookup?, Yaml.Value.isText, hvalue]
  have hjob (name : String) :
      (declaring lookup.key value).declared? lookup.key (.job name) = none := rfl
  unfold find? Lookup.scopes
  cases lookup.order <;> simp [hroot, hjob]

/-- The command for a job ends with the argument that holds the roster. -/
theorem runJob_args_eq_concat (s : Settings) (roster : Roster) (dir : Path) :
    ∃ before, (Emulator.runJob s roster dir).args =
      before ++ [s.workflow.key ++ "=" ++ roster.joined] :=
  ⟨_ ++ ["--env"], (List.append_assoc _ ["--env"] [_]).symm⟩

/-- The words of the joined names of a roster without empty names are its names exactly if no name
holds a blank character. -/
theorem words_joined_iff {roster : Roster} (hnames : ∀ name ∈ roster.names, name ≠ "") :
    Text.words roster.joined = roster.names ↔ ∀ name ∈ roster.names, Text.Unspaced name := by
  rw [Roster.joined, Text.words_intercalate_iff]
  constructor
  · exact fun h name hname ↦ (h name hname).unspaced
  · exact fun h name hname ↦ ⟨hnames name hname, h name hname⟩

/-- A workflow that declares the joined names of a roster gives the names back exactly if they are
the words of the joined names. -/
theorem ofWorkflow_joined_iff {path : Path} {lookup : Lookup} {roster : Roster} :
    (∃ again, Roster.ofWorkflow path lookup
      (.declaring lookup.key (.string roster.joined)) = .ok again ∧ again.names = roster.names) ↔
      Text.words roster.joined = roster.names := by
  rw [Roster.ofWorkflow, Workflow.find?_declaring lookup rfl]
  simp only [Roster.ofValue_eq_ok_iff, Yaml.Value.names?, Yaml.Value.scalarText?, Except.ok.injEq]
  constructor
  · rintro ⟨again, ⟨hwords, -⟩, hagain⟩
    rw [hwords, hagain]
  · intro hwords
    exact ⟨⟨roster.names, .root, roster.names_ne_nil⟩, ⟨hwords, rfl⟩, rfl⟩

/-- For a roster that is extracted from a workflow, and for a key without an equals sign, the last
argument of the command for the job, cut at its first equals sign, gives back the key and a text.
The words of this text are the names of the roster exactly if no name holds a blank character, and
a workflow that declares this text under the key gives the names back in just the same case. That is
always so if the declared value is no sequence. -/
theorem override_words_iff (s : Settings) (text : String) (path dir : Path) (roster : Roster)
    (hkey : '=' ∉ s.workflow.key.toList)
    (hroster : Roster.extract text path s.workflow.lookup = .ok roster) :
    (∃ before argument right,
      (Emulator.runJob s roster dir).args = before ++ [argument] ∧
      cutAtEquals argument = (s.workflow.key, right) ∧
      (Text.words right = roster.names ↔ ∀ name ∈ roster.names, Text.Unspaced name)) ∧
    ((∃ again, Roster.ofWorkflow path s.workflow.lookup
        (.declaring s.workflow.key (.string roster.joined)) = .ok again ∧
        again.names = roster.names) ↔
      ∀ name ∈ roster.names, Text.Unspaced name) ∧
    ∃ workflow value, Workflow.parse text path = .ok workflow ∧
      workflow.find? s.workflow.lookup = some (roster.scope, value) ∧
      ((∀ items, value.untagged ≠ .seq items) → ∀ name ∈ roster.names, Text.Unspaced name) := by
  obtain ⟨workflow, value, hparse, hfind, hvalue⟩ := Roster.exists_of_extract_eq_ok hroster
  have hnames := Yaml.Value.names?_spec value hvalue
  have hwords := words_joined_iff fun name hname ↦ (hnames name hname).1
  refine ⟨?_, ?_, workflow, value, hparse, hfind, ?_⟩
  · obtain ⟨before, hargs⟩ := runJob_args_eq_concat s roster dir
    exact ⟨before, _, roster.joined, hargs, cutAtEquals_append hkey _, hwords⟩
  · rw [← hwords]
    exact ofWorkflow_joined_iff
  · intro hseq name hname
    exact ((hnames name hname).2 hseq).unspaced

namespace Roster.Trial

/-- The settings of the trial. -/
def settings : Settings := .new ⟨"."⟩

/-- What the trial extracts from a text, if that is a roster. -/
def roster? (text : String) : Option Roster :=
  (extract text ⟨"rolling-release.yml"⟩ settings.workflow.lookup).toOption

/-- The roster of the trial is what is extracted from the text. -/
theorem extract_eq_ok {text : String} {roster : Roster} (h : roster? text = some roster) :
    extract text ⟨"rolling-release.yml"⟩ settings.workflow.lookup = .ok roster := by
  unfold roster? at h
  cases hextract : extract text ⟨"rolling-release.yml"⟩ settings.workflow.lookup with
  | error e =>
      rw [hextract] at h
      cases h
  | ok other =>
      rw [hextract] at h
      cases h
      rfl

/-- A roster of three names, of which two are the same. -/
def three : Roster := ⟨["alpha", "beta", "alpha"], .root, by decide⟩

/-- A roster of one name, which holds a space. -/
def spaced : Roster := ⟨["alpha beta"], .root, by decide⟩

end Roster.Trial

open Roster.Trial in
/-- The names in a sequence of three items, one of them in blanks, are given back by the argument
and by a workflow that declares them in one text. -/
theorem override_words_trial :
    (∃ before argument right,
      (Emulator.runJob settings three ⟨"out"⟩).args = before ++ [argument] ∧
      cutAtEquals argument = ("LINT_CRATES", right) ∧
      Text.words right = ["alpha", "beta", "alpha"]) ∧
    ∃ again, Roster.ofWorkflow ⟨"rolling-release.yml"⟩ settings.workflow.lookup
      (.declaring "LINT_CRATES" (.string three.joined)) = .ok again ∧
      again.names = ["alpha", "beta", "alpha"] := by
  have hroster := extract_eq_ok
    (by decide +kernel : roster? "env:\n  LINT_CRATES: [alpha, ' beta ', alpha]\n" = some three)
  have hnames : ∀ name ∈ three.names, Text.Unspaced name := by decide
  obtain ⟨⟨before, argument, right, hargs, hcut, hwords⟩, hagain, -⟩ :=
    override_words_iff settings _ ⟨"rolling-release.yml"⟩ ⟨"out"⟩ three (by decide) hroster
  exact ⟨⟨before, argument, right, hargs, hcut, hwords.mpr hnames⟩, hagain.mpr hnames⟩

open Roster.Trial in
/-- A sequence with an item of two words declares one name, but the words of the argument are two,
and a workflow that declares the joined names in one text declares two. -/
theorem spaced_name_split :
    settings.findings.isValid = true ∧ '=' ∉ settings.workflow.key.toList ∧
    Roster.extract "env:\n  LINT_CRATES:\n    - alpha beta\n" ⟨"rolling-release.yml"⟩
      settings.workflow.lookup = .ok spaced ∧
    spaced.names = ["alpha beta"] ∧
    (∃ before, (Emulator.runJob settings spaced ⟨"out"⟩).args =
      before ++ ["LINT_CRATES=alpha beta"]) ∧
    Text.words (cutAtEquals "LINT_CRATES=alpha beta").2 = ["alpha", "beta"] ∧
    ∃ again, Roster.ofWorkflow ⟨"rolling-release.yml"⟩ settings.workflow.lookup
      (.declaring "LINT_CRATES" (.string spaced.joined)) = .ok again ∧
      again.names = ["alpha", "beta"] := by
  refine ⟨by decide, by decide, extract_eq_ok (by decide +kernel), rfl,
    runJob_args_eq_concat settings spaced ⟨"out"⟩, by decide, ?_⟩
  exact ⟨⟨["alpha", "beta"], .root, by decide⟩, rfl, rfl⟩

end LintRoster
