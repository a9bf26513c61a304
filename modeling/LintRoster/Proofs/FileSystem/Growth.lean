import LintRoster.Proofs.FileSystem.Walk
import LintRoster.Proofs.FileTree

/-!
# How a file system grows

Making directories takes nothing away. `Grown` says what may be different afterwards: at most that
some of the given paths lead to directories where nothing stood. `makeDirs_grown` shows this for a
directory and those above it, whether all of them could be made or not, and `isDir_of_makeDirs` that
the directory is there if they could.
-/

namespace LintRoster.FileSystem

section Resolution

variable {root old new : Directory} {followLast : Bool} {links : Nat} {place pieces : List String}

/-- A node that is reached is reached in every tree that the first one is within. -/
theorem Reaches.within (hwithin : old.Within new) {stop : List String} {node : Node}
    (h : Reaches old followLast links place pieces (.node stop node)) :
    ∃ node', Reaches new followLast links place pieces (.node stop node') ∧ node.Kept node' := by
  -- Files and links are as they were and directories are directories, so the pieces take the same
  -- turns in the new tree.
  generalize htarget : Target.node stop node = target at h
  induction h with
  | done links place node hfound =>
      cases htarget
      obtain ⟨node', hnew, hkept⟩ := hwithin _ _ hfound
      exact ⟨node', .done _ _ _ hnew, hkept⟩
  | stay links place piece rest _ hstay _ ih =>
      obtain ⟨node', hnew, hkept⟩ := ih htarget
      exact ⟨node', .stay _ _ _ _ _ hstay hnew, hkept⟩
  | up links place rest _ _ ih =>
      obtain ⟨node', hnew, hkept⟩ := ih htarget
      exact ⟨node', .up _ _ _ _ hnew, hkept⟩
  | free => cases htarget
  | dir links place piece rest entries _ hname hdir _ ih =>
      obtain ⟨node', hnew, hkept⟩ := ih htarget
      obtain ⟨_, hdir', ⟨⟩ | ⟨⟩⟩ := hwithin _ _ hdir
      all_goals exact ⟨node', .dir _ _ _ _ _ _ hname hdir' hnew, hkept⟩
  | file links place piece bytes executable hname hfile =>
      cases htarget
      obtain ⟨_, hfile', ⟨⟩⟩ := hwithin _ _ hfile
      exact ⟨_, .file _ _ _ _ _ hname hfile', .same _⟩
  | lastLink links place piece text hname hlink hlast =>
      cases htarget
      obtain ⟨_, hlink', ⟨⟩⟩ := hwithin _ _ hlink
      exact ⟨_, .lastLink _ _ _ _ hname hlink' hlast, .same _⟩
  | link links place piece rest text _ hname hlink hrest htext _ ih =>
      obtain ⟨node', hnew, hkept⟩ := ih htarget
      obtain ⟨_, hlink', ⟨⟩⟩ := hwithin _ _ hlink
      exact ⟨node', .link _ _ _ _ _ _ hname hlink' hrest htext hnew, hkept⟩

/-- Pieces without a name stay where they are. -/
theorem reaches_of_blank {pieces : List String} (hblank : pieces.all (· == "") = true) {node : Node}
    (h : root.find? place = some node) :
    Reaches root followLast links place pieces (.node place node) := by
  induction pieces with
  | nil => exact .done _ _ _ h
  | cons piece rest ih =>
      simp only [List.all_cons, Bool.and_eq_true, beq_iff_eq] at hblank
      exact .stay _ _ _ _ _ (Or.inl hblank.1) (ih hblank.2)

/-- A directory that is put at a free name is what the pieces reach that reached the name. -/
theorem Reaches.filled (hwithin : old.Within new) {parent : List String} {name : String}
    {entries : Directory} (hfilled : new.find? (parent ++ [name]) = some (.dir entries))
    (h : Reaches old false links place pieces (.free parent name)) :
    Reaches new true links place pieces (.node (parent ++ [name]) (.dir entries)) := by
  generalize htarget : Target.free parent name = target at h
  induction h with
  | done | file | lastLink => cases htarget
  | stay links place piece rest _ hstay _ ih => exact .stay _ _ _ _ _ hstay (ih htarget)
  | up links place rest _ _ ih => exact .up _ _ _ _ (ih htarget)
  | free links place piece rest entries hname _ hrest _ =>
      cases htarget
      -- A slash may follow the name, but no further name does.
      exact .dir _ _ _ _ _ _ hname hfilled (reaches_of_blank hrest hfilled)
  | dir links place piece rest _ _ hname hdir _ ih =>
      obtain ⟨_, hdir', ⟨⟩ | ⟨⟩⟩ := hwithin _ _ hdir
      all_goals exact .dir _ _ _ _ _ _ hname hdir' (ih htarget)
  | link links place piece rest text _ hname hlink hrest htext _ ih =>
      obtain ⟨_, hlink', ⟨⟩⟩ := hwithin _ _ hlink
      exact .link _ _ _ _ _ _ hname hlink' (fun _ ↦ rfl) htext (ih htarget)

/-- A node that is reached stands where it is reached. -/
theorem Reaches.find?_eq {stop : List String} {node : Node}
    (h : Reaches root followLast links place pieces (.node stop node)) :
    root.find? stop = some node := by
  generalize htarget : Target.node stop node = target at h
  induction h with
  | free => cases htarget
  | stay _ _ _ _ _ _ _ ih | up _ _ _ _ _ ih | dir _ _ _ _ _ _ _ _ _ ih
  | link _ _ _ _ _ _ _ _ _ _ _ ih => exact ih htarget
  | done _ _ _ hfound | file _ _ _ _ _ _ hfound | lastLink _ _ _ _ _ hfound =>
      cases htarget
      exact hfound

/-- Nothing stands at a free name that is reached, and a directory stands above it. -/
theorem Reaches.free_spec {parent : List String} {name : String}
    (h : Reaches root followLast links place pieces (.free parent name)) :
    root.find? (parent ++ [name]) = none ∧ ∃ entries, root.find? parent = some (.dir entries) := by
  generalize htarget : Target.free parent name = target at h
  induction h with
  | done | file | lastLink => cases htarget
  | stay _ _ _ _ _ _ _ ih | up _ _ _ _ _ ih | dir _ _ _ _ _ _ _ _ _ ih
  | link _ _ _ _ _ _ _ _ _ _ _ ih => exact ih htarget
  | free links place piece rest entries _ hnone _ hentries =>
      cases htarget
      exact ⟨hnone, entries, hentries⟩

end Resolution

variable {before middle after : FileSystem} {p : Path} {paths : List Path}

/-- A path that is resolved has its pieces followed, and whether it has depends on nothing but its
text. -/
theorem resolveWith_eq_ok_iff {fs : FileSystem} {followLast : Bool} {target : Target} :
    fs.resolveWith followLast p = .ok target ↔
      ('\x00' ∉ p.text.toList ∧ p.text ≠ "" ∧ p.text.utf8ByteSize ≤ pathLimit) ∧
      Reaches fs.root followLast linkLimit (fs.start p) p.pieces target := by
  rw [resolveWith, reaches_iff]
  split
  · next h => simp [List.contains_iff_mem.mp h]
  split
  · next h => simp [beq_iff_eq.mp h]
  split
  · next h => simp [Nat.not_le.mpr h]
  · next hnul hempty hlong =>
      rw [and_iff_right]
      exact ⟨by simpa using hnul, by simpa using hempty, Nat.le_of_not_gt hlong⟩

/-- What a path leads to is the node that it is resolved to. -/
theorem stat_eq_ok_iff {fs : FileSystem} {place : List String} {node : Node} :
    fs.stat p = .ok (place, node) ↔ fs.resolve p = .ok (.node place node) := by
  unfold stat
  split
  · next h => simp [h]
  · next h => simp [h]
  · next h => simp [h]

/-- What a path leads to stands where it leads. -/
theorem find?_of_stat {fs : FileSystem} {place : List String} {node : Node}
    (h : fs.stat p = .ok (place, node)) : fs.root.find? place = some node :=
  (resolveWith_eq_ok_iff.mp (stat_eq_ok_iff.mp h)).2.find?_eq

/-- What a path leads to is kept in every file system that holds all of the first one. -/
theorem stat_within (hcwd : after.cwd = before.cwd) (hwithin : before.root.Within after.root)
    {place : List String} {node : Node} (h : before.stat p = .ok (place, node)) :
    ∃ node', after.stat p = .ok (place, node') ∧ node.Kept node' := by
  obtain ⟨hproper, hreaches⟩ := resolveWith_eq_ok_iff.mp (stat_eq_ok_iff.mp h)
  obtain ⟨node', hreaches', hkept⟩ := hreaches.within hwithin
  have hstart : after.start p = before.start p := by rw [start, start, hcwd]
  rw [← hstart] at hreaches'
  exact ⟨node', stat_eq_ok_iff.mpr (resolveWith_eq_ok_iff.mpr ⟨hproper, hreaches'⟩), hkept⟩

/-- `Grown paths before after` says everything is still there, and what is new are directories to
which some of the paths lead. -/
structure Grown (paths : List Path) (before after : FileSystem) : Prop where
  cwd : after.cwd = before.cwd
  within : before.root.Within after.root
  fresh : ∀ place node, after.root.find? place = some node → before.root.find? place = none →
    ∃ p ∈ paths, ∃ entries, node = .dir entries ∧ after.stat p = .ok (place, node)

namespace Grown

/-- A file system that is left alone has grown by nothing. -/
theorem refl (paths : List Path) (fs : FileSystem) : Grown paths fs fs where
  cwd := rfl
  within := .refl _
  fresh place node h hnone := by
    rw [hnone] at h
    cases h

/-- Growth by some paths is growth by more paths. -/
theorem mono {more : List Path} (h : Grown paths before after) (hmore : ∀ p ∈ paths, p ∈ more) :
    Grown more before after where
  cwd := h.cwd
  within := h.within
  fresh place node hnew hnone := by
    obtain ⟨p, hp, hdir⟩ := h.fresh place node hnew hnone
    exact ⟨p, hmore p hp, hdir⟩

/-- Growth twice is growth. -/
theorem trans (h : Grown paths before middle) (h' : Grown paths middle after) :
    Grown paths before after where
  cwd := h'.cwd.trans h.cwd
  within := h.within.trans h'.within
  fresh place node hnew hnone := by
    cases hmiddle : middle.root.find? place with
    | none => exact h'.fresh place node hnew hmiddle
    | some earlier =>
        obtain ⟨p, hp, entries, rfl, hstat⟩ := h.fresh place earlier hmiddle hnone
        obtain ⟨later, hlater, hkept⟩ := stat_within h'.cwd h'.within hstat
        -- The path still leads to the place, so what it leads to is what stands there.
        cases (find?_of_stat hlater).symm.trans hnew
        cases hkept with
        | same | dir => exact ⟨p, hp, _, rfl, hlater⟩

end Grown

/-- A directory that was made is where its path leads, and all that is new. -/
theorem makeDir_spec {fs : FileSystem} (h : before.makeDir p = .ok fs) :
    (∃ place, fs.stat p = .ok (place, .dir .empty)) ∧ Grown [p] before fs := by
  unfold makeDir at h
  split at h
  · cases h
  · cases h
  next parent name hresolve =>
  cases h
  obtain ⟨hproper, hreaches⟩ := resolveWith_eq_ok_iff.mp hresolve
  obtain ⟨hfree, entries, hparent⟩ := hreaches.free_spec
  have hwithin := Directory.within_addDir hparent hfree
  have hstat : (before.put (parent ++ [name]) (.dir .empty)).stat p =
      .ok (parent ++ [name], .dir .empty) :=
    stat_eq_ok_iff.mpr (resolveWith_eq_ok_iff.mpr
      ⟨hproper, hreaches.filled hwithin (Directory.find?_addDir_self hparent)⟩)
  refine ⟨⟨_, hstat⟩, ⟨rfl, hwithin, fun place node hnew hnone ↦ ?_⟩⟩
  obtain rfl := Directory.eq_of_find?_addDir hparent hnew hnone
  cases (find?_of_stat hstat).symm.trans hnew
  exact ⟨p, List.mem_singleton_self p, _, rfl, hstat⟩

/-- A directory that was made is there. -/
theorem isDir_of_makeDir {fs : FileSystem} (h : before.makeDir p = .ok fs) : fs.isDir p = true := by
  obtain ⟨⟨place, hstat⟩, -⟩ := makeDir_spec h
  rw [isDir, hstat]
  rfl

/-- Directories that are made one below the other let a file system grow by their paths. -/
theorem makeDirChain_grown (fs : FileSystem) : ∀ paths,
    Grown paths fs (fs.makeDirChain paths).2
  | [] => .refl [] fs
  | p :: parents => by
      have hparents := (makeDirChain_grown fs parents).mono fun q hq ↦ List.mem_cons_of_mem p hq
      have hself : ∀ q ∈ [p], q ∈ p :: parents := by simp
      unfold makeDirChain
      split
      · next hmade => exact (makeDir_spec hmade).2.mono hself
      · split
        · next hchain => rwa [hchain] at hparents
        · next hchain =>
            rw [hchain] at hparents
            split
            · next hmade => exact hparents.trans ((makeDir_spec hmade).2.mono hself)
            -- What was made above stays, although the path itself could not be made.
            · exact hparents
      · exact .refl _ fs

/-- A fault that does not matter is one about a directory that is there. -/
theorem isDir_of_tolerated {fs : FileSystem} {fault : FileFault}
    (h : (if fs.isDir p then Except.ok () else .error fault, fs) = (.ok (), after)) :
    after.isDir p = true := by
  cases hdir : fs.isDir p <;> rw [hdir] at h <;> cases h
  exact hdir

/-- Where directories could be made one below the other, the lowest one is there. -/
theorem isDir_of_makeDirChain {fs : FileSystem} {parents : List Path}
    (h : fs.makeDirChain (p :: parents) = (.ok (), after)) : after.isDir p = true := by
  unfold makeDirChain at h
  split at h
  · next hmade =>
      cases h
      exact isDir_of_makeDir hmade
  · split at h
    · cases h
    · split at h
      · next hmade =>
          cases h
          exact isDir_of_makeDir hmade
      · exact isDir_of_tolerated h
  · exact isDir_of_tolerated h

/-- Making a directory lets a file system grow by directories to which its path and the paths above
it lead, whether it can be made or not. -/
theorem makeDirs_grown (fs : FileSystem) (p : Path) :
    Grown (ancestry p) fs (fs.makeDirs p).2 := by
  unfold makeDirs
  split
  · exact .refl _ fs
  · exact makeDirChain_grown fs _

/-- A directory that could be made is there. -/
theorem isDir_of_makeDirs (hpath : p.text ≠ "") (h : before.makeDirs p = (.ok (), after)) :
    after.isDir p = true := by
  rw [makeDirs, if_neg (by simpa using hpath)] at h
  exact isDir_of_makeDirChain h

end LintRoster.FileSystem
