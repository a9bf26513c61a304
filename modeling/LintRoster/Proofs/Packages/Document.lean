import LintRoster.Proofs.NameSet
import LintRoster.Proofs.Packages

/-!
# Documents of metadata

A record is an object whose members have texts as names, each of which stands once; its members may
come in any order, and only the one that is asked for matters. `metadata_all_or_nothing` says what
follows for a document that is a record: it gives the set of the names of its packages, whatever
else it says and in whatever order, or it is refused as a whole.
-/

namespace LintRoster

namespace Json

/-- `tree.IsRecord members` says the tree is an object with these members, and no two of them have
the same name. -/
structure IsRecord (tree : Json) (members : List (String × Json)) : Prop where
  tree_eq : tree = .object (members.map fun member ↦ (some member.1, member.2))
  distinct : (members.map Prod.fst).Nodup

variable {tree value : Json} {members : List (String × Json)} {name : String}

/-- Members of other names are left out. -/
theorem filter_name_of_not_mem (h : name ∉ members.map Prod.fst) :
    (members.filter fun member ↦ member.1 == name) = [] := by
  rw [List.filter_eq_nil_iff]
  rintro member hmem hname
  exact h (List.mem_map.mpr ⟨member, hmem, beq_iff_eq.mp hname⟩)

/-- One member is left if the members have different names. -/
theorem filter_name_of_mem (hdistinct : (members.map Prod.fst).Nodup)
    (h : (name, value) ∈ members) :
    (members.filter fun member ↦ member.1 == name) = [(name, value)] := by
  induction members with
  | nil => cases h
  | cons member members ih =>
      obtain ⟨hfresh, hothers⟩ := List.nodup_cons.mp hdistinct
      obtain rfl | hmem := List.mem_cons.mp h
      · rw [List.filter_cons, if_pos (beq_self_eq_true name), filter_name_of_not_mem hfresh]
      · have hne : member.1 ≠ name := by
          rintro rfl
          exact hfresh (List.mem_map.mpr ⟨_, hmem, rfl⟩)
        rw [List.filter_cons, if_neg (mt beq_iff_eq.mp hne), ih hothers hmem]

namespace IsRecord

/-- Of a record, only the members with the name that is asked for matter. -/
theorem soleMember_eq (h : tree.IsRecord members) (name : String) :
    tree.soleMember name =
      match (members.filter fun member ↦ member.1 == name).map
          fun member ↦ (some member.1, member.2) with
      | [] => .error (.missingMember name)
      | [member] => .ok member.2
      | _ => .error (.repeatedMember name) := by
  have hnames : ¬ (members.map fun member ↦ (some member.1, member.2)).any
      (fun member ↦ member.1.isNone) = true := by simp
  have hfilter : (members.map fun member ↦ (some member.1, member.2)).filter
      (fun member ↦ member.1 == some name) =
      (members.filter fun member ↦ member.1 == name).map
        fun member ↦ (some member.1, member.2) := List.filter_map
  rw [← hfilter, h.tree_eq]
  exact if_neg hnames

/-- A member of a record is the one member of its name. -/
theorem soleMember_eq_ok_iff (h : tree.IsRecord members) :
    tree.soleMember name = .ok value ↔ (name, value) ∈ members := by
  rw [h.soleMember_eq]
  constructor
  · intro hsole
    by_cases hname : name ∈ members.map Prod.fst
    · obtain ⟨⟨_, other⟩, hmem, rfl⟩ := List.mem_map.mp hname
      rw [filter_name_of_mem h.distinct hmem] at hsole
      cases hsole
      exact hmem
    · rw [filter_name_of_not_mem hname] at hsole
      cases hsole
  · intro hmem
    rw [filter_name_of_mem h.distinct hmem]
    rfl

/-- A record has one value at most under a name. -/
theorem eq_of_mem (h : tree.IsRecord members) {other : Json} (hvalue : (name, value) ∈ members)
    (hother : (name, other) ∈ members) : value = other := by
  have hsole := (h.soleMember_eq_ok_iff.mpr hvalue).symm.trans (h.soleMember_eq_ok_iff.mpr hother)
  exact Except.ok.inj hsole

end IsRecord

end Json

namespace Packages

/-- The entry is a record with this name, whatever else it says. -/
def HasName (entry : Json) (name : String) : Prop :=
  ∃ members, entry.IsRecord members ∧ ("name", .string (some name)) ∈ members

section

variable {text : String} {document : Json} {members : List (String × Json)}

/-- The name of an entry is read off it. -/
theorem HasName.names {entry : Json} {name : String} (h : HasName entry name) :
    Names entry name := by
  obtain ⟨members, hrecord, hmem⟩ := h
  exact hrecord.soleMember_eq_ok_iff.mpr hmem

/-- The names of entries are those that some entry has. -/
theorem mem_names_iff {entries : List Json} {names : List String}
    (h : List.Forall₂ Names entries names) {name : String} :
    name ∈ names ↔ ∃ entry ∈ entries, Names entry name := by
  induction h with
  | nil => simp
  | cons hname _ ih =>
      rw [List.mem_cons, ih, List.exists_mem_cons_iff]
      refine or_congr_left ⟨?_, fun hother ↦ names_rightUnique hother hname⟩
      rintro rfl
      exact hname

/-- Entries have names exactly if each of them has one. -/
theorem exists_names_iff {entries : List Json} :
    (∃ names, List.Forall₂ Names entries names) ↔ ∀ entry ∈ entries, ∃ name, Names entry name := by
  induction entries with
  | nil => simp
  | cons entry entries ih =>
      rw [List.forall_mem_cons, ← ih]
      constructor
      · rintro ⟨_, hnames⟩
        obtain ⟨name, names, hname, hothers, rfl⟩ := List.forall₂_cons_left_iff.mp hnames
        exact ⟨⟨name, hname⟩, names, hothers⟩
      · rintro ⟨⟨name, hname⟩, names, hothers⟩
        exact ⟨name :: names, .cons hname hothers⟩

/-- Entries that are the same up to their order and repetitions have the same set of names. -/
theorem exists_names_of_same_entries {entries entries' : List Json} {names : List String}
    (h : List.Forall₂ Names entries names) (hsame : ∀ entry, entry ∈ entries' ↔ entry ∈ entries) :
    ∃ names', List.Forall₂ Names entries' names' ∧
      NameSet.ofList names' = NameSet.ofList names := by
  have hnamed := exists_names_iff.mp ⟨names, h⟩
  obtain ⟨names', h'⟩ := exists_names_iff.mpr fun entry hentry ↦
    hnamed entry ((hsame entry).mp hentry)
  refine ⟨names', h', NameSet.eq_of_mem_iff fun name ↦ ?_⟩
  simp only [NameSet.mem_toList_ofList, mem_names_iff h, mem_names_iff h', hsame]

/-- A document that is a record gives packages exactly if it has an array of packages all of which
have names. -/
theorem ofMetadata_record_iff (htext : Json.ofText? text = .ok document)
    (hrecord : document.IsRecord members) {packages : NameSet} :
    ofMetadata text = .ok packages ↔ ∃ entries names,
      ("packages", .array entries) ∈ members ∧ List.Forall₂ Names entries names ∧
      packages = .ofList names := by
  simp only [ofMetadata_eq_ok_iff_ofJson, htext, Except.ok.injEq, exists_eq_left',
    ofJson_eq_ok_iff, hrecord.soleMember_eq_ok_iff]

/-- Metadata without packages is refused. -/
theorem exists_reason_of_ne_ok (h : ∀ packages, ofMetadata text ≠ .ok packages) :
    ∃ reason, ofMetadata text = .error (.metadataUnreadable reason) := by
  cases hread : ofMetadata text with
  | ok packages => exact absurd hread (h packages)
  | error e =>
      obtain ⟨reason, rfl⟩ := metadataUnreadable_of_ofMetadata_error hread
      exact ⟨reason, rfl⟩

end

/-- The names of packages in a text are read off all entries or off none. If the text is a record
with an array of packages that all have names, it gives exactly the set of these names, and any other
record gives the same set if its array holds the same entries, in any order and with repetitions. If
one entry is a record without a name that is a text, or if the record has no array of packages, the
text is refused. -/
theorem metadata_all_or_nothing (text : String) (document : Json)
    (members : List (String × Json)) (htext : Json.ofText? text = .ok document)
    (hrecord : document.IsRecord members) :
    (∀ entries names, ("packages", .array entries) ∈ members →
      List.Forall₂ HasName entries names →
      ∃ packages, ofMetadata text = .ok packages ∧ packages = .ofList names ∧
        (packages.toList.Pairwise fun a b ↦ Utf8.encode a < Utf8.encode b) ∧
        (∀ name, name ∈ packages.toList ↔ name ∈ names) ∧ packages.size = names.dedup.length ∧
        ∀ text' document' members' entries', Json.ofText? text' = .ok document' →
          document'.IsRecord members' → ("packages", .array entries') ∈ members' →
          (∀ entry, entry ∈ entries' ↔ entry ∈ entries) → ofMetadata text' = .ok packages) ∧
    (∀ entries entry fields, ("packages", .array entries) ∈ members → entry ∈ entries →
      entry.IsRecord fields → (∀ name, ("name", .string (some name)) ∉ fields) →
      ∃ reason, ofMetadata text = .error (.metadataUnreadable reason)) ∧
    ((∀ entries, ("packages", .array entries) ∉ members) →
      ∃ reason, ofMetadata text = .error (.metadataUnreadable reason)) := by
  refine ⟨?_, ?_, ?_⟩
  · intro entries names hentries hnames
    have hread := hnames.imp fun _ _ ↦ HasName.names
    refine ⟨.ofList names, (ofMetadata_record_iff htext hrecord).mpr ⟨entries, names, hentries,
      hread, rfl⟩, rfl, NameSet.sorted_by_bytes _, fun _ ↦ NameSet.mem_toList_ofList,
      NameSet.size_ofList names, ?_⟩
    intro text' document' members' entries' htext' hrecord' hentries' hsame
    obtain ⟨names', hread', hset⟩ := exists_names_of_same_entries hread hsame
    exact (ofMetadata_record_iff htext' hrecord').mpr
      ⟨entries', names', hentries', hread', hset.symm⟩
  · intro entries entry fields hentries hentry hfields hnone
    refine exists_reason_of_ne_ok fun packages hread ↦ ?_
    obtain ⟨entries', names, hentries', hnames, -⟩ :=
      (ofMetadata_record_iff htext hrecord).mp hread
    cases hrecord.eq_of_mem hentries hentries'
    obtain ⟨name, hname⟩ := exists_names_iff.mp ⟨names, hnames⟩ entry hentry
    exact hnone name (hfields.soleMember_eq_ok_iff.mp hname)
  · intro hnone
    refine exists_reason_of_ne_ok fun packages hread ↦ ?_
    obtain ⟨entries, -, hentries, -⟩ := (ofMetadata_record_iff htext hrecord).mp hread
    exact hnone entries hentries

namespace Trial

/-- The entry of a package, with a member in front of its name. -/
def package (name : String) : Json :=
  .object [(some "id", .null), (some "name", .string (some name))]

/-- An entry whose name is null. -/
def nameless : Json := .object [(some "name", .null)]

/-- A document with these entries, and a member in front of them. -/
def document (entries : List Json) : Json :=
  .object [(some "v", .null), (some "packages", .array entries)]

/-- The text of a document with three entries, two of which are of the same package. -/
def repeatedText : String :=
  "\x7b\"v\":null,\"packages\":[\x7b\"id\":null,\"name\":\"b\"\x7d," ++
    "\x7b\"id\":null,\"name\":\"a\"\x7d,\x7b\"id\":null,\"name\":\"b\"\x7d]\x7d"

/-- The text of a document with the same packages, once each and in another order. -/
def plainText : String :=
  "\x7b\"v\":null,\"packages\":[\x7b\"id\":null,\"name\":\"a\"\x7d," ++
    "\x7b\"id\":null,\"name\":\"b\"\x7d]\x7d"

/-- The text of a document with null for a name between two packages. -/
def namelessText : String :=
  "\x7b\"v\":null,\"packages\":[\x7b\"id\":null,\"name\":\"a\"\x7d,\x7b\"name\":null\x7d," ++
    "\x7b\"id\":null,\"name\":\"b\"\x7d]\x7d"

/-- The text of a document with null for its packages. -/
def unlistedText : String :=
  "\x7b\"packages\":null\x7d"

/-- The document is a record. -/
theorem isRecord_document (entries : List Json) :
    (document entries).IsRecord [("v", .null), ("packages", .array entries)] :=
  ⟨rfl, by simp⟩

/-- The entry of a package is a record with its name. -/
theorem hasName_package (name : String) : HasName (package name) name :=
  ⟨[("id", .null), ("name", .string (some name))], ⟨rfl, by simp⟩, by simp⟩

end Trial

open Trial in
/-- Two packages, one of which is listed twice, are the same set in another order and without the
repetition. A third entry with null for its name makes the whole text unreadable, and so does null
for the packages. -/
theorem metadata_all_or_nothing_trial :
    ofMetadata repeatedText = .ok (.ofList ["b", "a", "b"]) ∧
    ofMetadata plainText = .ok (.ofList ["b", "a", "b"]) ∧
    (∃ reason, ofMetadata namelessText = .error (.metadataUnreadable reason)) ∧
    ∃ reason, ofMetadata unlistedText = .error (.metadataUnreadable reason) := by
  have hrepeated : Json.ofText? repeatedText =
      .ok (document [package "b", package "a", package "b"]) := by cbv
  have hplain : Json.ofText? plainText = .ok (document [package "a", package "b"]) := by cbv
  have hnameless : Json.ofText? namelessText =
      .ok (document [package "a", nameless, package "b"]) := by cbv
  have hunlisted : Json.ofText? unlistedText = .ok (.object [(some "packages", .null)]) := by cbv
  obtain ⟨hlisted, -, -⟩ := metadata_all_or_nothing _ _ _ hrepeated (isRecord_document _)
  obtain ⟨packages, hread, rfl, -, -, -, hsame⟩ :=
    hlisted [package "b", package "a", package "b"] ["b", "a", "b"] (by simp)
      (.cons (hasName_package _) (.cons (hasName_package _) (.cons (hasName_package _) .nil)))
  refine ⟨hread, ?_, ?_, ?_⟩
  · refine hsame _ _ _ [package "a", package "b"] hplain (isRecord_document _) (by simp) ?_
    intro entry
    simp only [List.mem_cons, List.not_mem_nil, or_false]
    grind
  · obtain ⟨-, hrefused, -⟩ := metadata_all_or_nothing _ _ _ hnameless (isRecord_document _)
    exact hrefused [package "a", nameless, package "b"] nameless
      [("name", .null)] (by simp) (by simp) ⟨rfl, by simp⟩ (by simp)
  · exact (metadata_all_or_nothing _ _ [("packages", .null)] hunlisted ⟨rfl, by simp⟩).2.2 (by simp)

end Packages

end LintRoster
