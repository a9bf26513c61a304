import LintRoster.Proofs.Settings.Sections

/-!
# Documents with some of the settings

A document may hold any of the settings and leave out the others. `Settings.HeldBy` says that it
holds the values of given settings for those that are chosen, and `Settings.Completes` what is then
to be read: these values, the documented defaults of all other settings, and no root.
`partial_settings_spec` says that this is what is read, and that a scalar which is no value of its
setting is an error and never a default.
-/

namespace LintRoster.Settings

open Toml (Entries Item)

/-- `c.HeldBy chosen doc` says the document holds the values of `c` for the chosen settings and
nothing under the names of the others. A section without chosen settings may be left out. Entries
under other names and the order of the entries do not matter. -/
def HeldBy (c : Settings) (chosen : (σ : Section) → Set (Setting σ)) (doc : Entries) : Prop :=
  ∀ σ : Section,
    (doc.get? σ.name = none ∧ ∀ k, k ∉ chosen σ) ∨
    ∃ (origin : Toml.Origin) (es : Entries), doc.get? σ.name = some (.table origin es) ∧
      (∀ k ∈ chosen σ, ∃ item, es.get? k.name = some item ∧ k.kind.Writes (k.value c) item) ∧
      ∀ k ∉ chosen σ, es.get? k.name = none

/-- `s.Completes c chosen` says the settings are those of `c` as far as these are chosen, the
documented ones otherwise, and without a root. -/
structure Completes (s c : Settings) (chosen : (σ : Section) → Set (Setting σ)) : Prop where
  root : s.root = ⟨""⟩
  given (σ : Section) : ∀ k ∈ chosen σ, k.value s = k.value c
  others (σ : Section) : ∀ k ∉ chosen σ, k.value s = k.documented

section

variable {s t c : Settings} {chosen : (σ : Section) → Set (Setting σ)} {doc es : Entries}
  {σ : Section}

/-- There is one way to complete settings. -/
theorem Completes.unique (hs : s.Completes c chosen) (ht : t.Completes c chosen) : t = s := by
  refine ext_of_value (ht.root.trans hs.root.symm) fun σ k ↦ ?_
  by_cases hk : k ∈ chosen σ
  · rw [ht.given σ k hk, hs.given σ k hk]
  · rw [ht.others σ k hk, hs.others σ k hk]

/-- Nothing in a document changes the root. -/
theorem root_of_ofEntries (h : ofEntries doc = .ok s) : s.root = ⟨""⟩ := by
  refine Field.putEntries_keeps Settings.root (fun field hfield item a b hput ↦ ?_) h
  rw [fields_eq] at hfield
  obtain ⟨σ, -, rfl⟩ := List.mem_map.mp hfield
  obtain ⟨r, rfl⟩ := Field.exists_of_ofRecord_put hput
  exact σ.root_set a r

/-- A table that holds values for the chosen settings of a section and nothing for the others is read
as a section with these values and the documented ones. -/
theorem read_section
    (hgiven : ∀ k ∈ chosen σ, ∃ item, es.get? k.name = some item ∧ k.kind.Writes (k.value c) item)
    (hothers : ∀ k ∉ chosen σ, es.get? k.name = none) :
    ∃ r, Field.putEntries es σ.fields σ.start = .ok r ∧
      (∀ k ∈ chosen σ, k.get r = k.value c) ∧ ∀ k ∉ chosen σ, k.get r = k.documented := by
  have hread : ∀ k ∈ chosen σ, ∃ item, es.get? k.name = some item ∧
      k.kind.read? item = some (k.value c) := by
    intro k hk
    obtain ⟨item, hitem, hwrites⟩ := hgiven k hk
    exact ⟨item, hitem, Kind.read?_of_writes hwrites⟩
  have haccepted : ∀ k ∈ σ.settings, ∀ item, es.get? k.name = some item →
      ∃ v, k.kind.read? item = some v := by
    intro k _ item hitem
    by_cases hk : k ∈ chosen σ
    · obtain ⟨other, hother, hvalue⟩ := hread k hk
      obtain rfl : other = item := Option.some.inj (hother.symm.trans hitem)
      exact ⟨_, hvalue⟩
    · rw [hothers k hk] at hitem
      cases hitem
  obtain ⟨r, hput, hfilled⟩ :=
    Schema.putEntries_filled σ.serves_fields σ.nodup_settings σ.start haccepted
  refine ⟨r, hput, fun k hk ↦ ?_, fun k hk ↦ ?_⟩
  · obtain ⟨item, hitem, hvalue⟩ := hread k hk
    exact hfilled.get_eq (Section.mem_settings k) hitem hvalue
  · rw [← k.value_default]
    exact hfilled.kept k fun _ ↦ hothers k hk

/-- Each section of a document that holds the values of settings is left out or read with them. -/
theorem HeldBy.section_cases (h : c.HeldBy chosen doc) (σ : Section) :
    (doc.get? σ.name = none ∧ ∀ k, k ∉ chosen σ) ∨
    ∃ item r, doc.get? σ.name = some item ∧ schema.read? σ item = some r ∧
      (∀ k ∈ chosen σ, k.get r = k.value c) ∧ ∀ k ∉ chosen σ, k.get r = k.documented := by
  refine (h σ).imp_right ?_
  rintro ⟨origin, es, hitem, hgiven, hothers⟩
  obtain ⟨r, hput, hr⟩ := read_section hgiven hothers
  exact ⟨_, r, hitem, Schema.readRecord?_table hput origin, hr⟩

/-- A document that holds the values of settings for the chosen ones is read as what completes
them. -/
theorem HeldBy.exists_completes (h : c.HeldBy chosen doc) :
    ∃ s, ofEntries doc = .ok s ∧ s.Completes c chosen := by
  have haccepted : ∀ σ ∈ Section.all, ∀ item, doc.get? σ.name = some item →
      ∃ r, schema.read? σ item = some r := by
    intro σ _ item hitem
    obtain ⟨hmissing, -⟩ | ⟨other, r, hother, hread, -⟩ := h.section_cases σ
    · rw [hmissing] at hitem
      cases hitem
    · obtain rfl : other = item := Option.some.inj (hother.symm.trans hitem)
      exact ⟨r, hread⟩
  obtain ⟨s, hput, hfilled⟩ := Schema.putEntries_filled serves_fields (by decide) {} haccepted
  have hvalues (σ : Section) : (∀ k ∈ chosen σ, k.value s = k.value c) ∧
      ∀ k ∉ chosen σ, k.value s = k.documented := by
    obtain ⟨hmissing, hnone⟩ | ⟨item, r, hitem, hread, hgiven, hothers⟩ := h.section_cases σ
    · have hkept : σ.get s = σ.get {} := hfilled.kept σ fun _ ↦ hmissing
      refine ⟨fun k hk ↦ absurd hk (hnone k), fun k _ ↦ ?_⟩
      rw [← k.value_default, Setting.value, hkept, Setting.value]
    · have hset : σ.get s = r := hfilled.get_eq σ.mem_all hitem hread
      rw [← hset] at hgiven hothers
      exact ⟨hgiven, hothers⟩
  exact ⟨s, hput, root_of_ofEntries hput, fun σ ↦ (hvalues σ).1, fun σ ↦ (hvalues σ).2⟩

/-- A document is refused if a section of it holds a value for a setting that is refused. -/
theorem ofEntries_of_refused {k : Setting σ} {origin : Toml.Origin} {item : Item}
    (hsection : doc.get? σ.name = some (.table origin es)) (hitem : es.get? k.name = some item)
    (hrefused : k.kind.read? item = none) : ∃ fault, ofEntries doc = .error fault := by
  obtain ⟨fault, hput⟩ := Schema.putEntries_of_refused σ.serves_fields
    (Section.mem_settings k) hitem hrefused σ.start
  exact Schema.putEntries_of_refused serves_fields σ.mem_all hsection
    (Schema.readRecord?_table_of_error hput origin) {}

/-- What a document is read as is read from each text of it, and from each file with such a text. -/
theorem read_of_ofEntries {text : String} (htext : Toml.document? text = .ok doc)
    (h : ofEntries doc = .ok s) :
    parse text = .ok s ∧ ∀ (fs : FileSystem) (root path : Path),
      fs.readText path = .ok text → loadFile fs root path = .ok { s with root } := by
  have hread : ofText? text = .ok s := by rw [ofText?, htext]; exact h
  refine ⟨by rw [parse, hread], fun fs root path hfile ↦ ?_⟩
  simp only [loadFile, hfile, hread]

/-- A document that is refused is an error about the configuration in each text of it, and in each
file with such a text. -/
theorem refused_of_ofEntries {text : String} {fault : Toml.Fault}
    (htext : Toml.document? text = .ok doc) (h : ofEntries doc = .error fault) :
    (∃ cause, parse text = .error (.config cause)) ∧ ∀ (fs : FileSystem) (root path : Path),
      fs.readText path = .ok text → ∃ cause, loadFile fs root path = .error (.config cause) := by
  have hread : ofText? text = .error fault := by rw [ofText?, htext]; exact h
  refine ⟨⟨_, by rw [parse, hread]⟩, fun fs root path hfile ↦ ?_⟩
  exact ⟨.unreadableFile path fault.message, by simp only [loadFile, hfile, hread]⟩

/-- Settings that are read from a text have no root. -/
theorem root_of_parse {text : String} (h : parse text = .ok s) : s.root = ⟨""⟩ := by
  unfold parse at h
  split at h
  · cases h
  · next hread =>
      cases h
      unfold ofText? at hread
      split at hread
      · cases hread
      · exact root_of_ofEntries hread

/-- Settings that are read from a file have the root of the caller. -/
theorem root_of_loadFile {fs : FileSystem} {root path : Path} (h : loadFile fs root path = .ok s) :
    s.root = root := by
  unfold loadFile at h
  split at h
  · cases h
  · split at h
    · cases h
    · cases h
      rfl

end

/-- If a document holds the values of settings for some chosen ones, there is one way to complete
these by the documented defaults, and that is what is read: from the document, from each text of it
and, with the root of the caller, from each file with such a text. No text decides the root. If a
section holds for one of its settings a scalar that is no value of it, other than a moment in the
place of a map, the document is refused, and each text of it and each file with such a text is an
error about the configuration. -/
theorem partial_settings_spec :
    (∀ (c : Settings) (chosen : (σ : Section) → Set (Setting σ)) (doc : Entries),
      c.HeldBy chosen doc →
      ∃ s, s.Completes c chosen ∧ (∀ t, t.Completes c chosen → t = s) ∧ ofEntries doc = .ok s ∧
        ∀ text, Toml.document? text = .ok doc → parse text = .ok s ∧
          ∀ (fs : FileSystem) root path, fs.readText path = .ok text →
            loadFile fs root path = .ok { s with root }) ∧
    (∀ text s, parse text = .ok s → s.root = ⟨""⟩) ∧
    (∀ fs root path s, loadFile fs root path = .ok s → s.root = root) ∧
    ∀ (doc : Entries) (σ : Section) (k : Setting σ) origin (es : Entries) item,
      doc.get? σ.name = some (.table origin es) → es.get? k.name = some item →
      k.kind.Misfit item → (k.kind = .map → ∀ s, item ≠ .moment s) →
      (∃ fault, ofEntries doc = .error fault) ∧
      ∀ text, Toml.document? text = .ok doc →
        (∃ fault, parse text = .error (.config fault)) ∧
        ∀ (fs : FileSystem) root path, fs.readText path = .ok text →
          ∃ fault, loadFile fs root path = .error (.config fault) := by
  refine ⟨fun c chosen doc hheld ↦ ?_, fun _ _ ↦ root_of_parse, fun _ _ _ _ ↦ root_of_loadFile, ?_⟩
  · obtain ⟨s, hread, hs⟩ := hheld.exists_completes
    exact ⟨s, hs, fun _ ht ↦ hs.unique ht, hread, fun _ htext ↦ read_of_ofEntries htext hread⟩
  · intro doc σ k origin es item hsection hitem hmisfit hmoment
    obtain ⟨fault, hread⟩ := ofEntries_of_refused hsection hitem (Kind.read?_of_misfit hmisfit hmoment)
    exact ⟨⟨fault, hread⟩, fun _ htext ↦ refused_of_ofEntries htext hread⟩

namespace Trial

/-- The text of a document with three settings, three unknown names and an empty section. -/
def someText : String :=
  "workspace_root = \"x\"\n[policy]\n[emulator]\nrate = 1.5\n" ++
    "[emulator.matrix]\nb = \"2\"\na = \"1\"\n[workflow]\njob = \"lints\"\nlookup = \"job-first\"\n"

/-- The document of the text. -/
def someDoc : Entries :=
  [("workspace_root", .string "x"), ("policy", .table .header []),
   ("emulator", .table .header [("rate", .float),
      ("matrix", .table .header [("b", .string "2"), ("a", .string "1")])]),
   ("workflow", .table .header [("job", .string "lints"), ("lookup", .string "job-first")])]

set_option maxRecDepth 4000 in
/-- The text is that of the document. -/
theorem document?_someText : Toml.document? someText = .ok someDoc := by
  rfl

/-- The settings that the document holds. -/
def chosen (σ : Section) : Set (Setting σ) :=
  {k | k.name ∈ ["job", "lookup", "matrix"]}

instance (σ : Section) (k : Setting σ) : Decidable (k ∈ chosen σ) :=
  inferInstanceAs (Decidable (k.name ∈ ["job", "lookup", "matrix"]))

/-- Settings with the values that the document holds and one that it does not hold. -/
def given : Settings where
  workflow := { job := "lints", key := "CRATES", order := .jobFirst }
  emulator := { matrix := .ofList [("a", "1"), ("b", "2")] }

/-- The document holds the values of the settings for the chosen ones. -/
theorem heldBy_someDoc : given.HeldBy chosen someDoc := by
  intro σ
  cases σ with
  | workspace => exact Or.inl ⟨rfl, fun k ↦ by cases k <;> decide⟩
  | policy =>
      refine Or.inr ⟨_, _, rfl, fun k hk ↦ ?_, fun _ _ ↦ rfl⟩
      cases k <;> exact absurd hk (by decide)
  | workflow =>
      refine Or.inr ⟨_, _, rfl, fun k hk ↦ ?_, fun k hk ↦ ?_⟩
      · cases k with
        | job => exact ⟨_, rfl, .text "lints"⟩
        | lookup => exact ⟨_, rfl, .jobFirst⟩
        | path | key => exact absurd hk (by decide)
      · cases k with
        | job | lookup => exact absurd (by decide) hk
        | path | key => rfl
  | emulator =>
      refine Or.inr ⟨_, _, rfl, fun k hk ↦ ?_, fun k hk ↦ ?_⟩
      · cases k with
        | matrix => exact ⟨_, rfl, .map .header _ [("b", "2"), ("a", "1")] (by decide)⟩
        | _ => exact absurd hk (by decide)
      · cases k with
        | matrix => exact absurd (by decide) hk
        | _ => rfl

end Trial

open Trial in
/-- The text of the trial is read as the settings that it holds and the default of any other one. A
document with a negative number of seconds is refused. -/
theorem partial_settings_trial :
    given.HeldBy chosen someDoc ∧
    (∃ s, parse someText = .ok s ∧ s.root = ⟨""⟩ ∧ s.workflow.job = "lints" ∧
      s.workflow.order = .jobFirst ∧ s.workflow.key = "LINT_CRATES" ∧
      s.emulator.matrix = .ofList [("a", "1"), ("b", "2")] ∧ s.emulator.runSeconds = 3600) ∧
    ∃ fault, ofEntries [("workspace", .table .header [("metadata_timeout_secs", .integer (-1))])] =
      .error fault := by
  obtain ⟨hsome, -, -, hmisfit⟩ := partial_settings_spec
  refine ⟨heldBy_someDoc, ?_, ?_⟩
  · obtain ⟨s, hs, -, -, hread⟩ := hsome given chosen someDoc heldBy_someDoc
    exact ⟨s, (hread someText document?_someText).1, hs.root,
      hs.given .workflow .job (by decide), hs.given .workflow .lookup (by decide),
      hs.others .workflow .key (by decide), hs.given .emulator .matrix (by decide),
      hs.others .emulator .runSeconds (by decide)⟩
  · exact (hmisfit _ .workspace .metadataSeconds .header _ _ rfl rfl (.negative (-1) (by decide))
      (fun hmap ↦ by cases hmap)).1

/-- A date is no value of the matrix, but it is read as a map with one entry, and not refused. -/
theorem date_matrix_accepted :
    ∃ es, Toml.document? "[emulator]\nmatrix = 1979-05-27\n" = .ok es ∧
      es.get? "emulator" = some (.table .header [("matrix", .moment "1979-05-27")]) ∧
      Setting.matrix.kind.Misfit (.moment "1979-05-27") ∧
      ∃ s, parse "[emulator]\nmatrix = 1979-05-27\n" = .ok s ∧
        s.emulator.matrix.toList = [("$__toml_private_datetime", "1979-05-27")] := by
  refine ⟨[("emulator", .table .header [("matrix", .moment "1979-05-27")])], by rfl, rfl,
    .type _ _ .moment rfl (by decide), ?_⟩
  exact ⟨{ emulator := { matrix := .ofList [("$__toml_private_datetime", "1979-05-27")] } },
    by rfl, by rfl⟩

end LintRoster.Settings
