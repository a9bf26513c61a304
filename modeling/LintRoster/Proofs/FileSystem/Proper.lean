import LintRoster.FileSystem.Placement
import LintRoster.Proofs.FileSystem.Growth
import LintRoster.Proofs.FileTree.Order

/-!
# Operations keep a file system proper

A file system is proper if its tree is: names are steps of paths, and entries are in order. Every
operation changes the tree at a place that a path was resolved to, and the names of such a place are
proper ones. So each operation keeps the file system proper, and so do several, which is
`Proper.placeAll`.
-/

namespace LintRoster.FileSystem

/-- The tree of the file system is proper. -/
def Proper (fs : FileSystem) : Prop :=
  (Node.dir fs.root).Proper

variable {fs : FileSystem} {p : Path} {followLast : Bool} {stop parent : List String}
  {name : String} {node new : Node}

/-- A free name that pieces without slashes reach can be a step of a path. -/
theorem Reaches.isStepName {root : Directory} {links : Nat} {start pieces : List String}
    (h : Reaches root followLast links start pieces (.free parent name))
    (hpieces : ∀ piece ∈ pieces, '/' ∉ piece.toList) : Path.IsStepName name := by
  generalize htarget : Target.free parent name = target at h
  induction h with
  | done | file | lastLink => cases htarget
  | stay _ _ _ _ _ _ _ ih | up _ _ _ _ _ ih | dir _ _ _ _ _ _ _ _ _ ih =>
      exact ih (fun piece hpiece ↦ hpieces piece (List.mem_cons_of_mem _ hpiece)) htarget
  | free _ _ _ _ _ hname =>
      cases htarget
      exact ⟨hpieces name List.mem_cons_self, hname.ne_empty, hname.ne_dot, hname.ne_dots⟩
  | link _ _ _ _ _ _ _ _ _ _ _ ih =>
      refine ih (fun piece hpiece ↦ ?_) htarget
      obtain hpiece | hpiece := List.mem_append.mp hpiece
      · exact Path.not_mem_of_mem_pieces hpiece
      · exact hpieces piece (List.mem_cons_of_mem _ hpiece)

/-- A proper file system has proper names on the way to what a path leads to. -/
theorem Proper.isStepName_of_node (h : fs.Proper)
    (hresolve : fs.resolveWith followLast p = .ok (.node stop node)) :
    ∀ name ∈ stop, Path.IsStepName name := by
  have hfound := (resolveWith_eq_ok_iff.mp hresolve).2.find?_eq
  exact h.named stop node (Node.leads_of_find? hfound)

/-- A proper file system has proper names on the way to a free name, which is proper as well. -/
theorem Proper.isStepName_of_free (h : fs.Proper)
    (hresolve : fs.resolveWith followLast p = .ok (.free parent name)) :
    ∀ other ∈ parent ++ [name], Path.IsStepName other := by
  have hreaches := (resolveWith_eq_ok_iff.mp hresolve).2
  obtain ⟨-, entries, hparent⟩ := hreaches.free_spec
  intro other hother
  obtain hother | hother := List.mem_append.mp hother
  · exact h.named parent _ (Node.leads_of_find? hparent) other hother
  · obtain rfl := List.mem_singleton.mp hother
    exact hreaches.isStepName fun piece hpiece ↦ Path.not_mem_of_mem_pieces hpiece

/-- Something proper that is put at a place with proper names keeps a file system proper. -/
theorem Proper.put (h : fs.Proper) (hstop : ∀ name ∈ stop, Path.IsStepName name)
    (hnew : new.Proper) : (fs.put stop new).Proper :=
  Node.Proper.alterAt h hstop (by rintro _ _ ⟨⟩; exact hnew)

/-- What is taken away leaves a file system proper. -/
theorem Proper.erase (h : fs.Proper) (hstop : ∀ name ∈ stop, Path.IsStepName name) :
    (fs.erase stop).Proper :=
  Node.Proper.alterAt h hstop nofun

/-- A directory that is made keeps a file system proper. -/
theorem Proper.makeDir {after : FileSystem} (h : fs.Proper) (hmade : fs.makeDir p = .ok after) :
    after.Proper := by
  unfold FileSystem.makeDir at hmade
  split at hmade <;> cases hmade
  next hresolve => exact h.put (h.isStepName_of_free hresolve) Node.proper_dir_empty

/-- Directories that are made one below the other keep a file system proper. -/
theorem Proper.makeDirChain (h : fs.Proper) : ∀ paths, (fs.makeDirChain paths).2.Proper
  | [] => h
  | p :: parents => by
      have hparents := h.makeDirChain parents
      unfold FileSystem.makeDirChain
      split
      · next hmade => exact h.makeDir hmade
      · split
        · next hchain => rwa [hchain] at hparents
        · next hchain =>
            rw [hchain] at hparents
            split
            · next hmade => exact hparents.makeDir hmade
            · exact hparents
      · exact h

/-- A directory that is made with those above it keeps a file system proper. -/
theorem Proper.makeDirs (h : fs.Proper) (p : Path) : (fs.makeDirs p).2.Proper := by
  unfold FileSystem.makeDirs
  split
  · exact h
  · exact h.makeDirChain _

/-- What is taken away with all below it leaves a file system proper. -/
theorem Proper.removeTree (h : fs.Proper) (p : Path) : (fs.removeTree p).Proper := by
  unfold FileSystem.removeTree
  split
  · next hresolve => exact h.erase (h.isStepName_of_node hresolve)
  · exact h

/-- Something that is placed keeps a file system proper. -/
theorem Proper.place (h : fs.Proper) (p : Placement) : (fs.place p).Proper := by
  have hparents : (fs.makeParents p.path).Proper := by
    unfold makeParents
    split
    · exact h
    · exact h.makeDirs _
  unfold FileSystem.place
  split
  · exact h.makeDirs _
  · unfold putFile
    split
    · next hresolve => exact hparents.put (hparents.isStepName_of_node hresolve) Node.proper_file
    · next hresolve => exact hparents.put (hparents.isStepName_of_free hresolve) Node.proper_file
    · exact hparents
  · unfold putLink
    split
    · next hresolve => exact hparents.put (hparents.isStepName_of_free hresolve) Node.proper_link
    · exact hparents

/-- Whatever is placed, one thing after the other, keeps a file system proper. -/
theorem Proper.placeAll (h : fs.Proper) (ps : List Placement) : (fs.placeAll ps).Proper := by
  induction ps generalizing fs with
  | nil => exact h
  | cons p ps ih => exact ih (h.place p)

/-- The empty file system is proper. -/
theorem proper_empty (cwd : List String) : Proper ⟨.empty, cwd⟩ :=
  Node.proper_dir_empty

end LintRoster.FileSystem
