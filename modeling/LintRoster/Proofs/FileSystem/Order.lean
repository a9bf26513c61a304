import LintRoster.Proofs.FileSystem.Child
import LintRoster.Proofs.FileSystem.Proper
import LintRoster.Proofs.Path.Order

/-!
# The order of a listing

The walk goes through a directory in the order of the names, in which the entries of a proper
directory are already, and each entry is listed with all that is below it before the next one is
looked at. Two files of different entries differ first in the names of these entries, so the walk
meets files in the order of their paths and nothing is left to be sorted. `listFiles_in_order` says
this together with what a listing holds.
-/

namespace LintRoster

namespace Node

variable {path : Path} {node : Node} {entries : Directory}

/-- The walk finds the entries of a proper directory in the order of their names already. -/
theorem Proper.inNameOrder_eq (h : (Node.dir entries).Proper) :
    Directory.inNameOrder entries.toList = entries.toList :=
  Directory.inNameOrder_of_pairwise (proper_dir_iff.mp h).1

/-- The walk below a proper node meets files in the order of their paths. -/
theorem Proper.pairwise_filesBelow (h : node.Proper) :
    (node.filesBelow path).Pairwise Path.Before := by
  induction node generalizing path with
  | file => exact List.pairwise_singleton _ _
  | link => exact List.Pairwise.nil
  | dir entries ih =>
      obtain ⟨hnames, hentries⟩ := proper_dir_iff.mp h
      rw [filesBelow_dir, h.inNameOrder_eq, List.pairwise_flatMap]
      refine ⟨fun entry hmem ↦ ih _ _ hmem (hentries _ _ hmem).2, ?_⟩
      refine (List.pairwise_map.mp hnames).imp_of_mem ?_
      rintro ⟨name, child⟩ ⟨other, sibling⟩ hmem hmem' hlt p hp q hq
      obtain ⟨hname, hchild⟩ := hentries _ _ hmem
      obtain ⟨hother, hsibling⟩ := hentries _ _ hmem'
      obtain ⟨names, _, _, hleads, rfl⟩ := mem_filesBelow.mp hp
      obtain ⟨names', _, _, hleads', rfl⟩ := mem_filesBelow.mp hq
      -- Both paths go on from `path`, the one with the first name and the other with a later one.
      have hsteps := Path.components_below
        (List.forall_mem_cons.mpr ⟨hname, hchild.named names _ hleads⟩) path
      have hsteps' := Path.components_below
        (List.forall_mem_cons.mpr ⟨hother, hsibling.named names' _ hleads'⟩) path
      exact .of_names hsteps hsteps' hlt

end Node

/-- Different names lead to different paths. -/
theorem Path.below_inj {p : Path} {names names' : List String}
    (hnames : ∀ name ∈ names, IsStepName name) (hnames' : ∀ name ∈ names', IsStepName name)
    (h : p.below names = p.below names') : names = names' := by
  have hsteps := congrArg components h
  rw [components_below hnames, components_below hnames'] at hsteps
  exact List.map_injective_iff.mpr (fun _ _ ↦ Component.name.inj) (List.append_cancel_left hsteps)

namespace FileSystem

variable {fs : FileSystem} {dir : Path} {place : List String} {entries : Directory}

/-- The walk below a path meets files in the order of their paths. -/
theorem Proper.pairwise_walkFiles (h : fs.Proper) :
    (fs.walkFiles dir).Pairwise Path.Before := by
  unfold walkFiles
  split
  · exact List.Pairwise.nil
  · next node hstart =>
      obtain ⟨_, hfound⟩ := find?_of_walkStart? hstart
      exact (Node.Proper.of_find? h hfound).pairwise_filesBelow

/-- Sorting changes nothing in what the walk meets. -/
theorem Proper.regularFiles_eq (h : fs.Proper) : fs.regularFiles dir = fs.walkFiles dir :=
  List.mergeSort_of_pairwise (h.pairwise_walkFiles.imp Path.Before.le)

/-- What a listing of a directory holds are the paths of the directory joined with the names that
lead to a regular file in it. -/
theorem Proper.mem_regularFiles_iff (h : fs.Proper)
    (hstat : fs.stat dir = .ok (place, .dir entries)) {p : Path} :
    p ∈ fs.regularFiles dir ↔
      ∃ names bytes executable, (Node.dir entries).Leads names (.file bytes executable) ∧
        p = dir.join ⟨"/".intercalate names⟩ := by
  have hstart := walkStart?_eq_dir_iff.mpr ⟨place, hstat⟩
  have hproper := Node.Proper.of_find? h (find?_of_stat hstat)
  have hjoin {names : List String} {bytes : List UInt8} {executable : Bool}
      (hleads : (Node.dir entries).Leads names (.file bytes executable)) :
      dir.below names = dir.join ⟨"/".intercalate names⟩ := by
    refine Path.below_eq_join (hproper.named names _ hleads) ?_ dir
    rintro rfl
    cases hleads
  rw [mem_regularFiles]
  constructor
  · rintro ⟨node, names, bytes, executable, hnode, hleads, rfl⟩
    obtain rfl := Option.some.inj (hstart.symm.trans hnode)
    exact ⟨names, bytes, executable, hleads, hjoin hleads⟩
  · rintro ⟨names, bytes, executable, hleads, rfl⟩
    exact ⟨_, names, bytes, executable, hstart, hleads, (hjoin hleads).symm⟩

/-- Where names lead in a directory, the path of the directory joined with them is listed exactly if
they lead to a regular file. -/
theorem Proper.join_mem_regularFiles_iff (h : fs.Proper)
    (hstat : fs.stat dir = .ok (place, .dir entries)) {names : List String} {target : Node}
    (hne : names ≠ []) (hleads : (Node.dir entries).Leads names target) :
    dir.join ⟨"/".intercalate names⟩ ∈ fs.regularFiles dir ↔ target.isFile = true := by
  have hproper := Node.Proper.of_find? h (find?_of_stat hstat)
  have hnames := hproper.named names _ hleads
  rw [h.mem_regularFiles_iff hstat]
  constructor
  · rintro ⟨names', bytes, executable, hleads', hjoin⟩
    have hnames' := hproper.named names' _ hleads'
    have hne' : names' ≠ [] := by
      rintro rfl
      cases hleads'
    rw [← Path.below_eq_join hnames hne, ← Path.below_eq_join hnames' hne'] at hjoin
    obtain rfl := Path.below_inj hnames hnames' hjoin
    obtain rfl := hleads.unique hleads' hproper.sorted
    rfl
  · intro hfile
    cases target with
    | file bytes executable => exact ⟨names, bytes, executable, hleads, rfl⟩
    | link | dir => cases hfile

/-- A path that is a regular file is all that is listed of it. -/
theorem regularFiles_of_file {bytes : List UInt8} {executable : Bool}
    (hlink : fs.resolveLink dir = .ok (.node place (.file bytes executable))) :
    fs.regularFiles dir = [dir] := by
  have hmet : fs.walkFiles dir = [dir] := by
    rw [walkFiles, walkStart?_eq_file_iff.mpr ⟨place, hlink⟩]
    rfl
  rw [regularFiles, hmet, List.mergeSort_singleton]

/-- Nothing is listed of a path at which no walk starts. -/
theorem regularFiles_of_walkStart?_eq_none (hstart : fs.walkStart? dir = none) :
    fs.regularFiles dir = [] := by
  rw [regularFiles, walkFiles, hstart, List.mergeSort_nil]

/-- No walk starts at a link that does not lead to a directory. -/
theorem walkStart?_of_link {text : String}
    (hlink : fs.resolveLink dir = .ok (.node place (.link text))) (hdir : fs.isDir dir = false) :
    fs.walkStart? dir = none := by
  unfold isDir at hdir
  unfold walkStart?
  rw [hlink]
  dsimp only
  split
  · next hstat =>
      rw [hstat] at hdir
      cases hdir
  · rfl

/-- No walk starts at a path that leads nowhere. -/
theorem walkStart?_of_not_exists (hexists : fs.pathExists dir = false) :
    fs.walkStart? dir = none := by
  have hstat (place : List String) (node : Node) : fs.stat dir ≠ .ok (place, node) := by
    intro h
    rw [pathExists, h] at hexists
    cases hexists
  rw [Option.eq_none_iff_forall_ne_some]
  intro node hstart
  cases node with
  | link => exact walkStart?_ne_link hstart
  | dir =>
      obtain ⟨place, h⟩ := walkStart?_eq_dir_iff.mp hstart
      exact hstat place _ h
  | file =>
      -- A path that is a file up to a last link is that file through it as well.
      obtain ⟨place, hlink⟩ := walkStart?_eq_file_iff.mp hstart
      obtain hsame | ⟨_, _, hother⟩ := fs.resolveLink_agrees dir
      · exact hstat place _ (stat_eq_ok_iff.mpr (hsame.symm.trans hlink))
      · cases hlink.symm.trans hother

/-- If every directory at or below a path can be opened, the regular files there are listed in
strictly increasing order of their paths, which is the order in which the walk meets them. If the
path leads to a directory, be it through a link, its path is joined with all names that lead to a
regular file through real directories, and with no other names: what the names lead to is listed
exactly if it is a regular file. A path that is a regular file is the only one listed, a link
to something else than a directory is not listed, and of a path that leads nowhere nothing is. -/
theorem listFiles_in_order (fs : FileSystem) (dir : Path) (hproper : fs.Proper)
    (hwalkable : fs.Walkable dir) :
    ∃ files, fs.listFiles dir = .ok files ∧ fs.walkFiles dir = files ∧
      files.Pairwise Path.Before ∧ files.Nodup ∧
      (∀ place entries, fs.stat dir = .ok (place, .dir entries) →
        (∀ p, p ∈ files ↔ ∃ names bytes executable,
          (Node.dir entries).Leads names (.file bytes executable) ∧
            p = dir.join ⟨"/".intercalate names⟩) ∧
        ∀ names target, names ≠ [] → (Node.dir entries).Leads names target →
          (dir.join ⟨"/".intercalate names⟩ ∈ files ↔ target.isFile = true)) ∧
      (∀ place bytes executable,
        fs.resolveLink dir = .ok (.node place (.file bytes executable)) → files = [dir]) ∧
      (∀ place text, fs.resolveLink dir = .ok (.node place (.link text)) → fs.isDir dir = false →
        files = []) ∧
      (fs.pathExists dir = false → files = []) := by
  have hordered : (fs.regularFiles dir).Pairwise Path.Before :=
    hproper.regularFiles_eq ▸ hproper.pairwise_walkFiles
  refine ⟨fs.regularFiles dir, listFiles_of_walkable hwalkable, hproper.regularFiles_eq.symm,
    hordered, hordered.imp Path.Before.ne, ?_, ?_, ?_, ?_⟩
  · intro place entries hstat
    exact ⟨fun p ↦ hproper.mem_regularFiles_iff hstat, fun names target hne hleads ↦
      hproper.join_mem_regularFiles_iff hstat hne hleads⟩
  · exact fun place bytes executable hlink ↦ regularFiles_of_file hlink
  · exact fun place text hlink hdir ↦
      regularFiles_of_walkStart?_eq_none (walkStart?_of_link hlink hdir)
  · exact fun hexists ↦ regularFiles_of_walkStart?_eq_none (walkStart?_of_not_exists hexists)

namespace Trial

/-- A file system with a directory of files, directories and links, and a link to it. -/
def linked : FileSystem :=
  placeAll ⟨.empty, []⟩
    [⟨⟨"store/a-b"⟩, .file [] false⟩, ⟨⟨"store/a/x"⟩, .file [] false⟩,
      ⟨⟨"store/a/deep/z"⟩, .file [] true⟩, ⟨⟨"store/a/loop"⟩, .link ".."⟩,
      ⟨⟨"store/peek"⟩, .link "a-b"⟩, ⟨⟨"store/none"⟩, .dir⟩, ⟨⟨"out"⟩, .link "store"⟩]

/-- The directory behind the link of the trial. -/
def store : Directory :=
  .entry "a" (.dir (.entry "deep" (.dir (.entry "z" (.file [] true) .empty))
      (.entry "loop" (.link "..") (.entry "x" (.file [] false) .empty))))
    (.entry "a-b" (.file [] false) (.entry "none" (.dir .empty)
      (.entry "peek" (.link "a-b") .empty)))

/-- The walk of the link starts at the directory behind it. -/
theorem walkStart?_linked : linked.walkStart? ⟨"out"⟩ = some (.dir store) := by
  rfl

end Trial

open Trial in
/-- The directory behind the link of the trial is listed in the order of paths, which is not that of
texts, and without the links in it. -/
theorem listFiles_in_order_trial :
    linked.Proper ∧ linked.Walkable ⟨"out"⟩ ∧ linked.isDir ⟨"out"⟩ = true ∧
    linked.listFiles ⟨"out"⟩ = .ok [⟨"out/a/deep/z"⟩, ⟨"out/a/x"⟩, ⟨"out/a-b"⟩] ∧
    "out/a-b" < "out/a/x" := by
  have hproper : linked.Proper := (proper_empty []).placeAll _
  have hwalkable : linked.Walkable ⟨"out"⟩ := by
    rw [← unopened?_eq_none, walkStart?_linked, Option.bind_some]
    simp (disch := decide) only [store, Node.unopened?, Directory.unopened?,
      Directory.inNameOrder_of_pairwise, if_neg, List.findSome?_cons, List.findSome?_nil]
  have hwalk : linked.walkFiles ⟨"out"⟩ = [⟨"out/a/deep/z"⟩, ⟨"out/a/x"⟩, ⟨"out/a-b"⟩] := by
    rw [walkFiles, walkStart?_linked]
    simp (disch := decide) only [store, Node.filesBelow, Directory.filesBelow,
      Directory.inNameOrder_of_pairwise]
    decide
  obtain ⟨files, hlisted, hmet, -⟩ := listFiles_in_order linked ⟨"out"⟩ hproper hwalkable
  refine ⟨hproper, hwalkable, by decide +kernel, ?_, by decide⟩
  rw [hlisted, ← hmet, hwalk]

end FileSystem

end LintRoster
