import LintRoster.FileSystem.Listing
import LintRoster.Proofs.FileSystem.Resolution
import LintRoster.Proofs.FileTree
import LintRoster.Proofs.Path.Steps

/-!
# What a listing shows

`Node.Leads` says where names lead through real directories, without any walk. That the walk goes
through a directory in the order of names is `Node.filesBelow_dir` and `Node.unopened?_dir`. Read
`mem_regularFiles` and the two theorems on `listFiles` first: a listing holds the paths of exactly
the regular files that names lead to, unless a directory with too long a path is in the way. What
that means for a path is put into words by `FileSystem.HoldsFile` and `FileSystem.Walkable`.
-/

namespace LintRoster

namespace Path

/-- The path that names lead to from a path, one name at a time. -/
def below (p : Path) (names : List String) : Path :=
  names.foldl child p

/-- No name leads to the path itself. -/
@[simp]
theorem below_nil (p : Path) : p.below [] = p := rfl

/-- The first name leads to a child, and the others lead on from there. -/
@[simp]
theorem below_cons (p : Path) (name : String) (names : List String) :
    p.below (name :: names) = (p.child name).below names := rfl

/-- A path below another one has its steps, and one more for every name. -/
theorem components_below {names : List String} (h : ∀ name ∈ names, IsStepName name) (p : Path) :
    (p.below names).components = p.components ++ names.map .name := by
  induction names generalizing p with
  | nil => simp
  | cons name names ih =>
      have hname := h name List.mem_cons_self
      rw [below_cons, ih (fun other hother ↦ h other (List.mem_cons_of_mem _ hother)),
        components_child hname, List.append_assoc, List.map_cons, List.singleton_append]

/-- A path below another one is the other joined with the names and slashes between them. -/
theorem below_eq_join {names : List String} (hnames : ∀ name ∈ names, IsStepName name)
    (hne : names ≠ []) (p : Path) : p.below names = p.join ⟨"/".intercalate names⟩ := by
  induction names generalizing p with
  | nil => exact absurd rfl hne
  | cons name names ih =>
      obtain ⟨hname, hrest⟩ := List.forall_mem_cons.mp hnames
      cases names with
      | nil => rw [String.intercalate_singleton, below_cons, below_nil, child]
      | cons other names =>
          have hother := isAbsolute_names (hrest other List.mem_cons_self) names
          rw [below_cons, ih hrest (List.cons_ne_nil _ _), child, join_assoc,
            join_name hname hother, String.intercalate_cons_cons]

end Path

/-- `node.Leads names target` says the names lead from `node` to `target`, each through a real
directory. -/
inductive Node.Leads : Node → List String → Node → Prop where
  | here (node) : Leads node [] node
  | enter (entries name child names target) :
      (name, child) ∈ entries.toList → Leads child names target →
      Leads (.dir entries) (name :: names) target

namespace Directory

variable {α β : Type} {entries : List (String × α)}

/-- Nothing is added or dropped when entries are put into the order of their names. -/
@[simp]
theorem mem_inNameOrder {entry : String × α} : entry ∈ inNameOrder entries ↔ entry ∈ entries :=
  List.mem_mergeSort

/-- Entries stay as they are if they are in the order of their names. -/
theorem inNameOrder_of_pairwise (h : (entries.map Prod.fst).Pairwise (· < ·)) :
    inNameOrder entries = entries :=
  List.mergeSort_of_pairwise ((List.pairwise_map.mp h).imp fun hlt ↦
    decide_eq_true (Std.le_of_lt hlt))

/-- What belongs to the entries does not matter for their order. -/
theorem inNameOrder_map (f : String × α → β) :
    inNameOrder (entries.map fun entry ↦ (entry.1, f entry)) =
      (inNameOrder entries).map fun entry ↦ (entry.1, f entry) := by
  rw [inNameOrder, inNameOrder, List.map_mergeSort]
  exact fun _ _ _ _ ↦ rfl

/-- What is gathered entry by entry is gathered from the list of the entries. -/
theorem eq_map_toList {g : Directory → List (String × β)} (f : String × Node → β)
    (hempty : g .empty = [])
    (hentry : ∀ name node rest, g (.entry name node rest) = (name, f (name, node)) :: g rest)
    (d : Directory) : g d = d.toList.map fun entry ↦ (entry.1, f entry) := by
  induction d using Directory.rec (motive_1 := fun _ ↦ True) with
  | file | link | dir => trivial
  | empty => exact hempty
  | entry name node rest _ ih => rw [hentry, ih, toList, List.map_cons]

end Directory

namespace Node

variable {path p : Path} {entries : Directory}

/-- The walk through a directory goes below one entry after the other, in the order of their
names. -/
theorem filesBelow_dir :
    (Node.dir entries).filesBelow path =
      (Directory.inNameOrder entries.toList).flatMap fun entry ↦
        entry.2.filesBelow (path.child entry.1) := by
  have hentries : entries.filesBelow path =
      entries.toList.map fun entry ↦ (entry.1, entry.2.filesBelow (path.child entry.1)) :=
    Directory.eq_map_toList _ rfl (fun _ _ _ ↦ rfl) entries
  rw [filesBelow, hentries, Directory.inNameOrder_map, List.flatMap_map]

/-- The walk through a directory that can be opened ends at the first entry, in the order of their
names, below which it cannot go on. -/
theorem unopened?_dir :
    (Node.dir entries).unopened? path =
      if path.text.utf8ByteSize > FileSystem.pathLimit then some path
      else (Directory.inNameOrder entries.toList).findSome? fun entry ↦
        entry.2.unopened? (path.child entry.1) := by
  have hentries : entries.unopened? path =
      entries.toList.map fun entry ↦ (entry.1, entry.2.unopened? (path.child entry.1)) :=
    Directory.eq_map_toList _ rfl (fun _ _ _ ↦ rfl) entries
  rw [unopened?, hentries, Directory.inNameOrder_map, List.findSome?_map]
  rfl

/-- The files below a node are the regular files that names lead to. -/
theorem mem_filesBelow {node : Node} :
    p ∈ node.filesBelow path ↔
      ∃ names bytes executable, node.Leads names (.file bytes executable) ∧
        p = path.below names := by
  induction node generalizing path with
  | file bytes executable =>
      simp only [filesBelow, List.mem_singleton]
      constructor
      · rintro rfl
        exact ⟨[], bytes, executable, .here _, rfl⟩
      · rintro ⟨_, _, _, ⟨⟩, rfl⟩
        rfl
  | link target =>
      simp only [filesBelow, List.not_mem_nil, false_iff]
      rintro ⟨_, _, _, ⟨⟩, _⟩
  | dir entries ih =>
      simp only [filesBelow_dir, List.mem_flatMap, Directory.mem_inNameOrder]
      constructor
      · rintro ⟨⟨name, child⟩, hmem, hp⟩
        obtain ⟨names, bytes, executable, hleads, rfl⟩ := (ih name child hmem).mp hp
        exact ⟨name :: names, bytes, executable, .enter _ _ _ _ _ hmem hleads, rfl⟩
      · rintro ⟨_, bytes, executable, hleads, rfl⟩
        cases hleads with
        | enter _ name child names _ hmem hrest =>
            exact ⟨(name, child), hmem,
              (ih name child hmem).mpr ⟨names, bytes, executable, hrest, rfl⟩⟩

end Node

/-- No directory that names lead to has a path that is too long for it to be opened. -/
def Node.Openable (path : Path) (node : Node) : Prop :=
  ∀ names entries, node.Leads names (.dir entries) →
    (path.below names).text.utf8ByteSize ≤ FileSystem.pathLimit

/-- A directory can be walked if its path is short enough and all entries can be walked. -/
theorem Node.openable_dir_iff {path : Path} {entries : Directory} :
    (Node.dir entries).Openable path ↔
      path.text.utf8ByteSize ≤ FileSystem.pathLimit ∧
      ∀ name child, (name, child) ∈ entries.toList → child.Openable (path.child name) := by
  constructor
  · intro h
    exact ⟨h [] entries (.here _), fun name child hmem names sub hleads ↦
      h (name :: names) sub (.enter _ _ _ _ _ hmem hleads)⟩
  · rintro ⟨hpath, hentries⟩ names sub hleads
    cases hleads with
    | here => exact hpath
    | enter _ name child rest _ hmem hrest => exact hentries name child hmem rest sub hrest

/-- The walk below a node meets no fault exactly if every directory in it can be opened. -/
theorem Node.unopened?_eq_none {path : Path} {node : Node} :
    node.unopened? path = none ↔ node.Openable path := by
  induction node generalizing path with
  | file | link =>
      simp only [unopened?, true_iff]
      rintro _ _ ⟨⟩
  | dir entries ih =>
      rw [unopened?_dir, openable_dir_iff]
      split
      · next hlong =>
          simp only [reduceCtorEq, false_iff, not_and]
          intro hshort
          omega
      · next hshort =>
          simp only [List.findSome?_eq_none_iff, Directory.mem_inNameOrder, Prod.forall]
          rw [and_iff_right (by omega)]
          exact forall₂_congr fun name child ↦ forall_congr' fun hmem ↦ ih name child hmem

namespace FileSystem

variable {fs : FileSystem} {dir : Path}

/-- A walk starts at a directory exactly if the path leads to that directory through links. -/
theorem walkStart?_eq_dir_iff {entries : Directory} :
    fs.walkStart? dir = some (.dir entries) ↔ ∃ place, fs.stat dir = .ok (place, .dir entries) := by
  have hstat : (∃ place, fs.stat dir = .ok (place, .dir entries)) ↔
      ∃ place, fs.resolve dir = .ok (.node place (.dir entries)) := by
    unfold stat
    cases fs.resolve dir with
    | error => simp
    | ok target => cases target <;> simp
  rw [hstat]
  obtain heq | ⟨place, target, hlink⟩ := fs.resolveLink_agrees dir
  · rw [walkStart?, stat, heq]
    cases hresolve : fs.resolve dir with
    | error => simp
    | ok target =>
        cases target with
        | free => simp
        | node place node => cases node <;> simp
  · rw [walkStart?, hlink, stat]
    cases hresolve : fs.resolve dir with
    | error => simp
    | ok target =>
        cases target with
        | free => simp
        | node place node => cases node <;> simp

/-- A walk starts at a regular file exactly if the path leads to that file without a last link. -/
theorem walkStart?_eq_file_iff {bytes : List UInt8} {executable : Bool} :
    fs.walkStart? dir = some (.file bytes executable) ↔
      ∃ place, fs.resolveLink dir = .ok (.node place (.file bytes executable)) := by
  unfold walkStart?
  cases fs.resolveLink dir with
  | error => simp
  | ok target =>
      cases target with
      | free => simp
      | node place node =>
          cases node with
          | file | dir => simp
          | link =>
              simp only [Except.ok.injEq, Target.node.injEq, reduceCtorEq, and_false, exists_false,
                iff_false]
              split <;> simp

/-- No walk starts at a link. -/
theorem walkStart?_ne_link {target : String} : fs.walkStart? dir ≠ some (.link target) := by
  unfold walkStart?
  split
  · split <;> simp
  · next node hlink _ =>
      rintro ⟨⟩
      exact hlink _ rfl
  · simp

/-- A listing holds the path of a file exactly if names lead to one from where the walk starts. -/
theorem mem_regularFiles {p : Path} :
    p ∈ fs.regularFiles dir ↔
      ∃ node names bytes executable, fs.walkStart? dir = some node ∧
        node.Leads names (.file bytes executable) ∧ p = dir.below names := by
  rw [regularFiles, List.mem_mergeSort, walkFiles]
  cases fs.walkStart? dir with
  | none => simp
  | some node => simp [Node.mem_filesBelow]

/-- `fs.HoldsFile dir` says that there is a regular file at or below a path: in the directory that
the path leads to, at some depth, or at the path itself. -/
inductive HoldsFile (fs : FileSystem) (dir : Path) : Prop where
  | below (place entries names bytes executable) :
      fs.stat dir = .ok (place, .dir entries) →
      (Node.dir entries).Leads names (.file bytes executable) → HoldsFile fs dir
  | self (place bytes executable) :
      fs.resolveLink dir = .ok (.node place (.file bytes executable)) → HoldsFile fs dir

/-- Every directory at or below a path has a path that is short enough for it to be opened. -/
def Walkable (fs : FileSystem) (dir : Path) : Prop :=
  ∀ place entries names sub, fs.stat dir = .ok (place, .dir entries) →
    (Node.dir entries).Leads names (.dir sub) →
    (dir.below names).text.utf8ByteSize ≤ pathLimit

/-- A listing is not empty exactly if there is a regular file at or below the path. -/
theorem regularFiles_ne_nil : fs.regularFiles dir ≠ [] ↔ fs.HoldsFile dir := by
  constructor
  · intro h
    obtain ⟨p, hp⟩ := List.exists_mem_of_ne_nil _ h
    obtain ⟨node, names, bytes, executable, hstart, hleads, -⟩ := mem_regularFiles.mp hp
    cases node with
    | file =>
        cases hleads with
        | here =>
            obtain ⟨place, hplace⟩ := walkStart?_eq_file_iff.mp hstart
            exact .self place bytes executable hplace
    | link => exact absurd hstart walkStart?_ne_link
    | dir entries =>
        obtain ⟨place, hplace⟩ := walkStart?_eq_dir_iff.mp hstart
        exact .below place entries names bytes executable hplace hleads
  · rintro (⟨place, entries, names, bytes, executable, hstat, hleads⟩ |
      ⟨place, bytes, executable, hlink⟩)
    · have hstart := walkStart?_eq_dir_iff.mpr ⟨place, hstat⟩
      exact List.ne_nil_of_mem (mem_regularFiles.mpr ⟨_, names, _, _, hstart, hleads, rfl⟩)
    · have hstart := walkStart?_eq_file_iff.mpr ⟨place, hlink⟩
      exact List.ne_nil_of_mem (mem_regularFiles.mpr ⟨_, [], _, _, hstart, .here _, rfl⟩)

/-- The walk below a path meets no fault exactly if every directory there can be opened. -/
theorem unopened?_eq_none : (fs.walkStart? dir).bind (Node.unopened? dir) = none ↔
    fs.Walkable dir := by
  rw [Option.bind_eq_none_iff]
  simp only [Node.unopened?_eq_none]
  constructor
  · intro h place entries names sub hstat hleads
    exact h _ (walkStart?_eq_dir_iff.mpr ⟨place, hstat⟩) names sub hleads
  · intro h node hstart names sub hleads
    cases hleads with
    | here =>
        obtain ⟨place, hstat⟩ := walkStart?_eq_dir_iff.mp hstart
        exact h place sub [] sub hstat (.here _)
    | enter entries name child rest _ hmem hrest =>
        obtain ⟨place, hstat⟩ := walkStart?_eq_dir_iff.mp hstart
        exact h place entries _ sub hstat (.enter _ _ _ _ _ hmem hrest)

/-- Where every directory can be opened, the regular files are listed. -/
theorem listFiles_of_walkable (h : fs.Walkable dir) :
    fs.listFiles dir = .ok (fs.regularFiles dir) := by
  rw [listFiles, unopened?_eq_none.mpr h]

/-- A listing that meets no fault shows the regular files. -/
theorem regularFiles_of_listFiles {artifacts : List Path} (h : fs.listFiles dir = .ok artifacts) :
    fs.regularFiles dir = artifacts := by
  unfold listFiles at h
  split at h
  · cases h
  · exact Except.ok.inj h

/-- A listing that meets no fault is empty exactly if there is no regular file at or below the
path. -/
theorem eq_nil_iff_of_listFiles {artifacts : List Path} (h : fs.listFiles dir = .ok artifacts) :
    artifacts = [] ↔ ¬ fs.HoldsFile dir := by
  rw [← regularFiles_ne_nil, regularFiles_of_listFiles h]
  exact Classical.not_not.symm

/-- Where some directory cannot be opened, the walk ends with a fault. -/
theorem listFiles_of_not_walkable (h : ¬ fs.Walkable dir) :
    ∃ p, fs.listFiles dir = .error (walkFault p .nameTooLong) := by
  obtain ⟨p, hp⟩ := Option.ne_none_iff_exists'.mp (mt unopened?_eq_none.mp h)
  exact ⟨p, by rw [listFiles, hp]⟩

end FileSystem

end LintRoster
