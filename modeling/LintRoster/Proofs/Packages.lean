import LintRoster.Packages
import Mathlib.Data.List.Forall2

/-!
# Acceptable metadata

`Lists` says which texts are documents of metadata, and which names their package entries have.
Reading such a text answers the set of these names, and reading any other text is an error of one
kind.
-/

namespace LintRoster.Packages

/-- `Names entry name` says the one member `name` of an entry is this name. -/
def Names (entry : Json) (name : String) : Prop :=
  entry.soleMember "name" = .ok (.string (some name))

/-- `Lists text names` says a text is a document with one list of packages, each of which has one
name. -/
def Lists (text : String) (names : List String) : Prop :=
  ∃ document entries,
    Json.ofText? text = .ok document ∧
    document.soleMember "packages" = .ok (.array entries) ∧ List.Forall₂ Names entries names

/-- Only a tree that is an array has items. -/
theorem items_eq_ok_iff {tree : Json} {entries : List Json} :
    tree.items = .ok entries ↔ tree = .array entries := by
  cases tree <;> simp [Json.items]

/-- Only a tree that is a string with a text has a text. -/
theorem text_eq_ok_iff {tree : Json} {text : String} :
    tree.text = .ok text ↔ tree = .string (some text) := by
  cases tree with
  | string content => cases content <;> simp [Json.text]
  | null | bool | number | array | object => simp [Json.text]

/-- The name of an entry is the text of its one member `name`. -/
theorem entryName_eq_ok_iff {entry : Json} {name : String} :
    entryName entry = .ok name ↔ Names entry name := by
  unfold entryName Names
  split
  · next h => simp [h]
  · next member h => rw [h, text_eq_ok_iff, Except.ok.injEq]

/-- Some entries have names exactly if the first one and the others have. -/
theorem entryNames_cons_eq_ok_iff {entry : Json} {entries : List Json} {all : List String} :
    entryNames (entry :: entries) = .ok all ↔ ∃ name names,
      entryName entry = .ok name ∧ entryNames entries = .ok names ∧ all = name :: names := by
  cases hname : entryName entry with
  | error fault => simp [entryNames, hname]
  | ok name => cases hnames : entryNames entries <;> simp [entryNames, hname, hnames, eq_comm]

/-- The names of entries are one name for each, in their order. -/
theorem entryNames_eq_ok_iff {entries : List Json} : ∀ {names : List String},
    entryNames entries = .ok names ↔ List.Forall₂ Names entries names := by
  induction entries with
  | nil => simp [entryNames, eq_comm]
  | cons entry entries ih =>
      intro names
      rw [entryNames_cons_eq_ok_iff, List.forall₂_cons_left_iff]
      simp only [entryName_eq_ok_iff, ih, exists_and_left]

/-- The packages of a tree are the set of the names of its entries. -/
theorem ofJson_eq_ok_iff {document : Json} {packages : NameSet} :
    ofJson document = .ok packages ↔ ∃ entries names,
      document.soleMember "packages" = .ok (.array entries) ∧
      List.Forall₂ Names entries names ∧ packages = .ofList names := by
  simp only [← entryNames_eq_ok_iff]
  unfold ofJson
  split
  · next h => simp [h]
  · next member hmember =>
      simp only [hmember, Except.ok.injEq, ← items_eq_ok_iff]
      cases hitems : member.items with
      | error fault => simp
      | ok entries => cases hnames : entryNames entries <;> simp [Except.map, hnames, eq_comm]

/-- The packages of a text are those of the tree that it spells. -/
theorem ofMetadata_eq_ok_iff_ofJson {text : String} {packages : NameSet} :
    ofMetadata text = .ok packages ↔
      ∃ document, Json.ofText? text = .ok document ∧ ofJson document = .ok packages := by
  unfold ofMetadata
  split
  · next h => simp [h]
  · next document h => cases hread : ofJson document <;> simp [h, hread]

/-- The packages of a text are the set of the names that it lists. -/
theorem ofMetadata_eq_ok_iff {text : String} {packages : NameSet} :
    ofMetadata text = .ok packages ↔ ∃ names, Lists text names ∧ packages = .ofList names := by
  rw [ofMetadata_eq_ok_iff_ofJson]
  simp only [ofJson_eq_ok_iff]
  constructor
  · rintro ⟨document, htext, entries, names, hentries, hnames, rfl⟩
    exact ⟨names, ⟨document, entries, htext, hentries, hnames⟩, rfl⟩
  · rintro ⟨names, ⟨document, entries, htext, hentries, hnames⟩, rfl⟩
    exact ⟨document, htext, entries, names, hentries, hnames, rfl⟩

/-- An entry has one name at most. -/
theorem names_rightUnique : Relator.RightUnique Names := by
  intro entry name name' hname hname'
  cases hname.symm.trans hname'
  rfl

/-- A text lists names in one way only. -/
theorem Lists.unique {text : String} {names names' : List String} (h : Lists text names)
    (h' : Lists text names') : names = names' := by
  obtain ⟨document, entries, htext, hentries, hnames⟩ := h
  obtain ⟨document', entries', htext', hentries', hnames'⟩ := h'
  cases htext.symm.trans htext'
  cases hentries.symm.trans hentries'
  exact names_rightUnique.forall₂ hnames hnames'

/-- Metadata that cannot be read is reported as such. -/
theorem metadataUnreadable_of_ofMetadata_error {text : String} {e : Error}
    (h : ofMetadata text = .error e) : ∃ reason, e = .metadataUnreadable reason := by
  unfold ofMetadata at h
  split at h
  · exact ⟨_, (Except.error.inj h).symm⟩
  · split at h
    · exact ⟨_, (Except.error.inj h).symm⟩
    · cases h

/-- A text that cannot be read as metadata lists no names. -/
theorem not_lists_of_ofMetadata_error {text : String} {e : Error}
    (h : ofMetadata text = .error e) (names : List String) : ¬ Lists text names := by
  intro hlists
  have hread := ofMetadata_eq_ok_iff.mpr ⟨names, hlists, rfl⟩
  rw [h] at hread
  cases hread

end LintRoster.Packages
