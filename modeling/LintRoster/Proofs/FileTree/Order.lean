import LintRoster.NameSet
import LintRoster.Proofs.FileTree.Frame

/-!
# The order of entries

A directory keeps its entries in the order of their names, and no name twice. `Node.Sorted` says so
of every directory in a tree. An entry that is put in goes to its place, so a change at a place
keeps the order; with the names that a tree may hold this is `Node.Proper`.
-/

namespace LintRoster

namespace Node

/-- Every directory in the tree has its entries in the order of their names, none of them twice. -/
def Sorted (node : Node) : Prop :=
  ∀ names entries, node.Leads names (.dir entries) → entries.names.Pairwise (· < ·)

/-- A tree as a file system keeps it: its names can be steps of paths, and its entries stand in the
order of their names. -/
structure Proper (node : Node) : Prop where
  named : node.Named
  sorted : node.Sorted

/-- A directory is sorted throughout if its own entries are in order and each of them is sorted. -/
theorem sorted_dir_iff {entries : Directory} :
    (Node.dir entries).Sorted ↔
      entries.names.Pairwise (· < ·) ∧
      ∀ name child, (name, child) ∈ entries.toList → child.Sorted := by
  constructor
  · intro h
    exact ⟨h [] entries (.here _), fun name child hmem names sub hleads ↦
      h (name :: names) sub (.enter _ _ _ _ _ hmem hleads)⟩
  · rintro ⟨hnames, hentries⟩ names sub hleads
    cases hleads with
    | here => exact hnames
    | enter _ name child rest _ hmem hrest => exact hentries name child hmem rest sub hrest

/-- An empty directory is sorted. -/
@[simp]
theorem sorted_dir_empty : (Node.dir .empty).Sorted :=
  sorted_dir_iff.mpr ⟨List.Pairwise.nil, nofun⟩

/-- A file is sorted. -/
@[simp]
theorem sorted_file {bytes : List UInt8} {executable : Bool} :
    (Node.file bytes executable).Sorted := by
  rintro _ _ ⟨⟩

/-- A link is sorted. -/
@[simp]
theorem sorted_link {target : String} : (Node.link target).Sorted := by
  rintro _ _ ⟨⟩

end Node

namespace Directory

variable {d : Directory} {name : String} {f : Option Node → Option Node}

/-- A name after a change is a name from before, or the changed one. -/
theorem mem_names_alter {other : String} (h : other ∈ (d.alter name f).names) :
    other = name ∨ other ∈ d.names := by
  obtain ⟨⟨first, node⟩, hmem, rfl⟩ := List.mem_map.mp h
  obtain hold | ⟨rfl, -⟩ := mem_toList_alter hmem
  · exact Or.inr (List.mem_map_of_mem hold)
  · exact Or.inl rfl

/-- Where no name stands twice, every entry is what its name stands for. -/
theorem get?_of_mem_toList {node : Node} (hnames : d.names.Pairwise (· < ·))
    (h : (name, node) ∈ d.toList) : d.get? name = some node := by
  induction d using Directory.rec (motive_1 := fun _ ↦ True) with
  | file | link | dir => trivial
  | empty => cases h
  | entry first other rest _ ih =>
      obtain ⟨hfirst, hrest⟩ := List.pairwise_cons.mp hnames
      rw [get?]
      obtain heq | hmem := List.mem_cons.mp h
      · obtain ⟨rfl, rfl⟩ := Prod.mk.inj heq
        exact if_pos rfl
      · have hlt : first < name := hfirst name (List.mem_map_of_mem hmem)
        have hne : ¬ first = name := by
          rintro rfl
          exact String.lt_irrefl first hlt
        rw [if_neg hne]
        exact ih hrest hmem

/-- A change of one name keeps the order of the names. -/
theorem sorted_names_alter (h : d.names.Pairwise (· < ·)) :
    (d.alter name f).names.Pairwise (· < ·) := by
  induction d using Directory.rec (motive_1 := fun _ ↦ True) with
  | file | link | dir => trivial
  | empty =>
      rw [alter]
      split
      · exact h
      · exact List.pairwise_singleton _ _
  | entry first node rest _ ih =>
      obtain ⟨hfirst, hrest⟩ := List.pairwise_cons.mp h
      rw [alter]
      split
      · split
        · exact hrest
        · exact List.pairwise_cons.mpr ⟨hfirst, hrest⟩
      next hother =>
      split
      · next hplace =>
          split
          · exact h
          · have hname : name < first := by simpa using (Bool.and_eq_true_iff.mp hplace).1
            refine List.pairwise_cons.mpr ⟨fun other hmem ↦ ?_, h⟩
            obtain rfl | hmem := List.mem_cons.mp hmem
            · exact hname
            · exact String.lt_trans hname (hfirst other hmem)
      · next hplace =>
          refine List.pairwise_cons.mpr ⟨fun other hmem ↦ ?_, ih hrest⟩
          obtain rfl | hmem := mem_names_alter hmem
          · -- The name stands behind the first one already, or it is not in front of it.
            cases hfound : rest.get? other with
            | some node => exact hfirst other (List.mem_map_of_mem (mem_toList_of_get? hfound))
            | none =>
                have hbehind : ¬ other < first := by simpa [hfound] using hplace
                refine Decidable.byContradiction fun hfront ↦ ?_
                exact hother (NameSet.eq_of_not_lt hfront hbehind)
          · exact hfirst other hmem

end Directory

namespace Node

variable {d : Directory} {place : List String} {node : Node} {f : Option Node → Option Node}

/-- A tree stays sorted if what a name stands for is changed to something sorted. -/
theorem Sorted.alter {name : String} (h : (Node.dir d).Sorted)
    (hf : ∀ found new, (∀ old, found = some old → old.Sorted) → f found = some new → new.Sorted) :
    (Node.dir (d.alter name f)).Sorted := by
  obtain ⟨hnames, hentries⟩ := sorted_dir_iff.mp h
  refine sorted_dir_iff.mpr ⟨Directory.sorted_names_alter hnames, fun other child hmem ↦ ?_⟩
  obtain hold | ⟨-, found, hfound, hfrom⟩ := Directory.mem_toList_alter hmem
  · exact hentries other child hold
  · exact hf found child (fun old hold ↦ hentries name old (hfrom old hold)) hfound

/-- A tree stays sorted if what a place stands for is changed to something sorted. -/
theorem Sorted.alterAt (h : (Node.dir d).Sorted)
    (hf : ∀ found new, f found = some new → new.Sorted) :
    (Node.dir (d.alterAt place f)).Sorted := by
  induction place generalizing d with
  | nil => exact h
  | cons first rest ih =>
      cases rest with
      | nil => exact h.alter fun found new _ hnew ↦ hf found new hnew
      | cons second rest =>
          refine h.alter fun found new hold hnew ↦ ?_
          -- Below the first name only a directory is changed, by the rest of the place.
          split at hnew
          · cases hnew
            exact ih (hold _ rfl)
          · exact hold new hnew

/-- What stands anywhere in a sorted tree is sorted. -/
theorem Sorted.of_find? (hsorted : (Node.dir d).Sorted) (h : d.find? place = some node) :
    node.Sorted :=
  fun _ entries hleads ↦ hsorted _ entries ((leads_of_find? h).append hleads)

/-- Names lead from a sorted tree to one node only. -/
theorem Leads.unique {start a b : Node} {names : List String} (ha : start.Leads names a)
    (hb : start.Leads names b) (hsorted : start.Sorted) : a = b := by
  induction ha with
  | here =>
      cases hb
      rfl
  | enter entries name child names _ hmem _ ih =>
      cases hb with
      | enter _ _ other _ _ hother hrest =>
          obtain ⟨hnames, hentries⟩ := sorted_dir_iff.mp hsorted
          have hsame := (Directory.get?_of_mem_toList hnames hmem).symm.trans
            (Directory.get?_of_mem_toList hnames hother)
          obtain rfl := Option.some.inj hsame
          exact ih hrest (hentries name child hmem)

/-- What stands anywhere in a proper tree is proper. -/
theorem Proper.of_find? (hproper : (Node.dir d).Proper) (h : d.find? place = some node) :
    node.Proper :=
  ⟨hproper.named.of_find? h, hproper.sorted.of_find? h⟩

/-- A directory is proper if its entries are in order, their names can be steps of paths, and each
of them is proper. -/
theorem proper_dir_iff {entries : Directory} :
    (Node.dir entries).Proper ↔
      entries.names.Pairwise (· < ·) ∧
      ∀ name child, (name, child) ∈ entries.toList → Path.IsStepName name ∧ child.Proper := by
  constructor
  · rintro ⟨hnamed, hsorted⟩
    obtain ⟨hnames, hentries⟩ := sorted_dir_iff.mp hsorted
    refine ⟨hnames, fun name child hmem ↦ ?_⟩
    obtain ⟨hname, hchild⟩ := named_dir_iff.mp hnamed name child hmem
    exact ⟨hname, hchild, hentries name child hmem⟩
  · rintro ⟨hnames, hentries⟩
    exact ⟨named_dir_iff.mpr fun name child hmem ↦
        (hentries name child hmem).imp_right Proper.named,
      sorted_dir_iff.mpr ⟨hnames, fun name child hmem ↦ (hentries name child hmem).2.sorted⟩⟩

/-- An empty directory is proper. -/
theorem proper_dir_empty : (Node.dir .empty).Proper :=
  ⟨named_dir_empty, sorted_dir_empty⟩

/-- A file is proper. -/
theorem proper_file {bytes : List UInt8} {executable : Bool} :
    (Node.file bytes executable).Proper :=
  ⟨named_file, sorted_file⟩

/-- A link is proper. -/
theorem proper_link {target : String} : (Node.link target).Proper :=
  ⟨named_link, sorted_link⟩

/-- A tree stays proper if what a place with proper names stands for is changed to something
proper. -/
theorem Proper.alterAt (h : (Node.dir d).Proper) (hplace : ∀ name ∈ place, Path.IsStepName name)
    (hf : ∀ found new, f found = some new → new.Proper) :
    (Node.dir (d.alterAt place f)).Proper where
  named := h.named.alterAt hplace fun found new hnew ↦ (hf found new hnew).named
  sorted := h.sorted.alterAt fun found new hnew ↦ (hf found new hnew).sorted

end Node

end LintRoster
