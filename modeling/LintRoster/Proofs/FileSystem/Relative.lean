import LintRoster.Proofs.FileSystem.Child

/-!
# Reading from another directory

A path below a directory and the bare path, read by a process that entered the directory, lead to
the same. `readText_of_join` says so about the text of a file: whatever is read through the joined
path is read through the bare one from inside. The process inside may get further, because it has
passed no links yet and its path is shorter.
-/

namespace LintRoster.FileSystem

section Links

variable {root : Directory} {followLast : Bool} {links more : Nat} {place pieces : List String}
  {target : Target}

/-- What is reached through some links is reached if more of them may be passed. -/
theorem Reaches.more_links (h : Reaches root followLast links place pieces target)
    (hmore : links ≤ more) : Reaches root followLast more place pieces target := by
  induction h generalizing more with
  | done _ place node hfound => exact .done _ _ _ hfound
  | stay _ place piece rest target hstay _ ih => exact .stay _ _ _ _ _ hstay (ih hmore)
  | up _ place rest target _ ih => exact .up _ _ _ _ (ih hmore)
  | free _ place piece rest entries hname hnone hrest hentries =>
      exact .free _ _ _ _ _ hname hnone hrest hentries
  | dir _ place piece rest entries target hname hdir _ ih =>
      exact .dir _ _ _ _ _ _ hname hdir (ih hmore)
  | file _ place piece bytes executable hname hfile => exact .file _ _ _ _ _ hname hfile
  | lastLink _ place piece text hname hlink hlast => exact .lastLink _ _ _ _ hname hlink hlast
  | link links place piece rest text target hname hlink hrest htext _ ih =>
      -- The link that is followed takes one from both numbers.
      cases more with
      | zero => exact absurd hmore (Nat.not_succ_le_zero links)
      | succ more =>
          exact .link _ _ _ _ _ _ hname hlink hrest htext (ih (Nat.le_of_succ_le_succ hmore))

end Links

variable {fs inside : FileSystem} {p q : Path} {place stop : List String} {entries : Directory}
  {node : Node}

/-- A file system is seen from the directory that was entered, and is otherwise the same. -/
theorem changeDir_eq_ok_iff :
    fs.changeDir p = .ok inside ↔
      ∃ place entries, fs.stat p = .ok (place, .dir entries) ∧
        inside = { fs with cwd := place } := by
  unfold changeDir dirPlace
  cases fs.stat p with
  | error => simp
  | ok found =>
      obtain ⟨place, node⟩ := found
      cases node with
      | file | link => simp
      | dir entries =>
          simp only [Except.ok.injEq, Prod.mk.injEq, Node.dir.injEq]
          constructor
          · rintro rfl
            exact ⟨place, entries, ⟨rfl, rfl⟩, rfl⟩
          · rintro ⟨_, _, ⟨rfl, -⟩, rfl⟩
            rfl

/-- Bytes are read exactly from a file that a path leads to. -/
theorem readBytes_eq_ok_iff {bytes : List UInt8} :
    fs.readBytes p = .ok bytes ↔
      ∃ place executable, fs.stat p = .ok (place, .file bytes executable) := by
  unfold readBytes
  cases fs.stat p with
  | error => simp
  | ok found =>
      obtain ⟨place, node⟩ := found
      cases node <;> simp

/-- A text is read exactly from bytes that encode it. -/
theorem readText_eq_ok_iff {text : String} :
    fs.readText p = .ok text ↔
      ∃ bytes, fs.readBytes p = .ok bytes ∧ Utf8.decode? bytes = some text := by
  unfold readText
  cases fs.readBytes p with
  | error => simp
  | ok bytes => cases hdecode : Utf8.decode? bytes <;> simp [hdecode]

/-- What a relative path below a directory is resolved to is reached from that directory. -/
theorem reaches_of_join {target : Target} (hdir : fs.stat p = .ok (place, .dir entries))
    (hrelative : q.isAbsolute = false) (hjoin : fs.resolve (p.join q) = .ok target) :
    Reaches fs.root true linkLimit place q.pieces target := by
  obtain ⟨⟨hnul, hempty, hsize⟩, -⟩ := resolveWith_eq_ok_iff.mp hjoin
  obtain ⟨fewer, hle, hresolve⟩ := (Opens.leads hdir).resolveWith_join hrelative hempty true
  rw [resolve, hresolve, if_neg (by simpa using hnul), if_neg (Nat.not_lt.mpr hsize)] at hjoin
  exact (reaches_of_follow hjoin).more_links hle

/-- The empty path below a directory leads to the directory. -/
theorem stat_join_empty (hdir : fs.stat p = .ok (place, .dir entries)) (hq : q.text = "")
    (hjoin : fs.stat (p.join q) = .ok (stop, node)) : node = .dir entries := by
  have hrelative : q.isAbsolute = false := by simp [Path.isAbsolute, hq]
  have hpieces : q.pieces = [""] := by simp [Path.pieces, hq, Path.splitSlashes]
  have hreaches := reaches_of_join hdir hrelative (stat_eq_ok_iff.mp hjoin)
  have hself : Reaches fs.root true linkLimit place [""] (.node place (.dir entries)) :=
    reaches_of_blank rfl (find?_of_stat hdir)
  rw [hpieces, reaches_iff, reaches_iff.mp hself] at hreaches
  cases hreaches
  rfl

/-- A path below a directory leads where the bare path leads from inside. -/
theorem stat_of_join (hdir : fs.stat p = .ok (place, .dir entries)) (hq : q.text ≠ "")
    (hjoin : fs.stat (p.join q) = .ok (stop, node)) :
    ({ fs with cwd := place } : FileSystem).stat q = .ok (stop, node) := by
  rw [stat_eq_ok_iff] at hjoin ⊢
  obtain ⟨⟨hnul, -, hsize⟩, hreaches⟩ := resolveWith_eq_ok_iff.mp hjoin
  refine resolveWith_eq_ok_iff.mpr ?_
  cases hkind : q.isAbsolute with
  | true =>
      rw [Path.join_of_absolute hkind] at hnul hsize hreaches
      refine ⟨⟨hnul, hq, hsize⟩, ?_⟩
      simpa [start, hkind] using hreaches
  | false =>
      rw [Path.text_join hkind, String.toList_append, List.mem_append, not_or] at hnul
      rw [Path.text_join hkind, String.utf8ByteSize_append] at hsize
      refine ⟨⟨hnul.2, hq, by omega⟩, ?_⟩
      simpa [start, hkind] using reaches_of_join hdir hkind hjoin

/-- A file that is read through a path below a directory is read through the bare path from
inside. -/
theorem readText_of_join {text : String} (hdir : fs.changeDir p = .ok inside)
    (hread : fs.readText (p.join q) = .ok text) : inside.readText q = .ok text := by
  obtain ⟨place, entries, hstat, rfl⟩ := changeDir_eq_ok_iff.mp hdir
  obtain ⟨bytes, hbytes, hdecode⟩ := readText_eq_ok_iff.mp hread
  obtain ⟨stop, executable, hfile⟩ := readBytes_eq_ok_iff.mp hbytes
  have hq : q.text ≠ "" := by
    intro hempty
    cases stat_join_empty hstat hempty hfile
  have hinside := readBytes_eq_ok_iff.mpr ⟨stop, executable, stat_of_join hstat hq hfile⟩
  exact readText_eq_ok_iff.mpr ⟨bytes, hinside, hdecode⟩

end LintRoster.FileSystem
