import LintRoster.Proofs.FileSystem.Growth
import LintRoster.Proofs.FileTree.Frame

/-!
# A name below a directory

What happens at one name below a directory depends on the path and the name, which may be too long
or hold a character that no path can have, and on what stands at that name, but on nothing else in
the file system. `makeDirs_child` says so about making a directory there, and `walkStart?_child`
about the walk that lists the files in it.
-/

namespace LintRoster.FileSystem

variable {root : Directory} {followLast : Bool} {links : Nat} {place front tail rest : List String}
  {stop : List String} {entries : Directory} {name : String}

/-! ## Following one more piece -/

/-- Pieces that lead to a directory lead on from there, with the links that are left. Empty pieces
behind them can be dropped. -/
theorem Reaches.follow_append (followLast : Bool) {pieces : List String}
    (h : Reaches root true links place pieces (.node stop (.dir entries)))
    (hpieces : pieces = front ++ tail) (htail : tail.all (· == "") = true) (hrest : rest ≠ []) :
    ∃ fewer ≤ links, follow root followLast links place (front ++ rest) =
      follow root followLast fewer stop rest := by
  -- The induction is on the way to the directory; pieces that can be dropped only stay in place.
  generalize htarget : Target.node stop (.dir entries) = target at h
  induction h generalizing front tail with
  | done links place node hfound =>
      cases htarget
      obtain ⟨rfl, -⟩ := List.append_eq_nil_iff.mp hpieces.symm
      exact ⟨links, Nat.le_refl links, rfl⟩
  | stay links place piece others target hstay _ ih =>
      cases front with
      | nil =>
          rw [List.nil_append] at hpieces
          subst hpieces
          simp only [List.all_cons, Bool.and_eq_true] at htail
          exact ih (List.nil_append _).symm htail.2 htarget
      | cons first front =>
          obtain ⟨rfl, rfl⟩ := List.cons.inj hpieces
          obtain ⟨fewer, hle, hfewer⟩ := ih rfl htail htarget
          refine ⟨fewer, hle, ?_⟩
          rw [List.cons_append, follow_eq_walk, walk, if_pos (by simpa using hstay),
            ← follow_eq_walk, hfewer]
  | up links place others target _ ih =>
      cases front with
      | nil =>
          rw [List.nil_append] at hpieces
          subst hpieces
          simp at htail
      | cons first front =>
          obtain ⟨rfl, rfl⟩ := List.cons.inj hpieces
          obtain ⟨fewer, hle, hfewer⟩ := ih rfl htail htarget
          refine ⟨fewer, hle, ?_⟩
          rw [List.cons_append, follow_eq_walk, walk, if_neg (by decide), if_pos (by decide),
            ← follow_eq_walk, hfewer]
  | free => cases htarget
  | dir links place piece others sub target hname hdir _ ih =>
      cases front with
      | nil =>
          rw [List.nil_append] at hpieces
          subst hpieces
          simp [hname.ne_empty] at htail
      | cons first front =>
          obtain ⟨rfl, rfl⟩ := List.cons.inj hpieces
          obtain ⟨fewer, hle, hfewer⟩ := ih rfl htail htarget
          refine ⟨fewer, hle, ?_⟩
          rw [List.cons_append, follow_eq_walk, hname.walk_cons, hdir, ← follow_eq_walk]
          exact hfewer
  | file => cases htarget
  | lastLink => cases htarget
  | link links place piece others text target hname hlink _ htext _ ih =>
      cases front with
      | nil =>
          rw [List.nil_append] at hpieces
          subst hpieces
          simp [hname.ne_empty] at htail
      | cons first front =>
          obtain ⟨rfl, rfl⟩ := List.cons.inj hpieces
          obtain ⟨fewer, hle, hfewer⟩ := ih (List.append_assoc _ _ _).symm htail htarget
          refine ⟨fewer, Nat.le_succ_of_le hle, ?_⟩
          have hfollowed : ¬ ((front ++ rest).isEmpty && !followLast) = true := by simp [hrest]
          have hsome : ¬ (text == "") = true := by simpa using htext
          rw [List.cons_append, follow_eq_walk, hname.walk_cons, hlink]
          simp only [if_neg hfollowed, if_neg hsome]
          rw [← hfewer, List.append_assoc]
          rfl

/-- Where a name in a directory leads. -/
def targetAt (root : Directory) (place : List String) (name : String) : Target :=
  match root.find? (place ++ [name]) with
  | none => .free place name
  | some node => .node (place ++ [name]) node

/-- A name that is short enough leads to what stands at it, unless that is a link to be followed. -/
theorem follow_name (hname : IsEntryName name) (hdir : root.find? place = some (.dir entries))
    (hlink : followLast = true → ∀ text, root.find? (place ++ [name]) ≠ some (.link text)) :
    follow root followLast links place [name] = .ok (targetAt root place name) := by
  have hheld : holdsDir root place = true := holdsDir_iff.mpr ⟨entries, hdir⟩
  rw [follow_eq_walk, hname.walk_cons, targetAt]
  cases hfound : root.find? (place ++ [name]) with
  | none => simp [hheld]
  | some node =>
      cases node with
      | dir sub => simp [walk, hfound]
      | file => rfl
      | link text =>
          cases followLast with
          | false => rfl
          | true => exact absurd hfound (hlink rfl text)

/-- A name that is too long leads nowhere. -/
theorem follow_long_name (hname : Path.IsStepName name) (hlong : ¬ name.utf8ByteSize ≤ nameLimit) :
    follow root followLast links place [name] = .error .nameTooLong := by
  have hstay : ¬ (name == "" || name == ".") = true := by simp [hname.ne_empty, hname.ne_dot]
  have hup : ¬ (name == "..") = true := by simp [hname.ne_dots]
  rw [follow_eq_walk, walk, if_neg hstay, if_neg hup]
  exact if_pos (Nat.not_le.mp hlong)

/-! ## Paths that open a directory -/

variable {fs before after other : FileSystem} {p : Path}

/-- A path opens a directory at a place: it leads there, or it is empty and the directory is the
current one. -/
inductive Opens (fs : FileSystem) (p : Path) (place : List String) (entries : Directory) :
    Prop where
  | leads : fs.stat p = .ok (place, .dir entries) → Opens fs p place entries
  | here : p.text = "" → fs.cwd = place → fs.root.find? place = some (.dir entries) →
      Opens fs p place entries

/-- A directory that is opened stands where it is opened. -/
theorem Opens.find?_eq (h : fs.Opens p place entries) :
    fs.root.find? place = some (.dir entries) := by
  cases h with
  | leads hstat => exact find?_of_stat hstat
  | here _ _ hfound => exact hfound

/-- A directory is opened in every file system that holds all of the first one. -/
theorem Opens.within (h : before.Opens p place entries) (hcwd : after.cwd = before.cwd)
    (hwithin : before.root.Within after.root) : ∃ entries', after.Opens p place entries' := by
  cases h with
  | leads hstat =>
      obtain ⟨_, hstat', ⟨⟩ | ⟨⟩⟩ := stat_within hcwd hwithin hstat
      all_goals exact ⟨_, .leads hstat'⟩
  | here hempty hplace hfound =>
      obtain ⟨_, hfound', ⟨⟩ | ⟨⟩⟩ := hwithin _ _ hfound
      all_goals exact ⟨_, .here hempty (hcwd.trans hplace) hfound'⟩

/-- A directory that is opened is reached by the pieces of the path. -/
theorem Opens.reaches (h : fs.Opens p place entries) :
    Reaches fs.root true linkLimit (fs.start p) p.pieces (.node place (.dir entries)) := by
  cases h with
  | leads hstat => exact (resolveWith_eq_ok_iff.mp (stat_eq_ok_iff.mp hstat)).2
  | here hempty hplace hfound =>
      have hpieces : p.pieces = [""] := by simp [Path.pieces, hempty, Path.splitSlashes]
      have hstart : fs.start p = place := by simp [start, Path.isAbsolute, hempty, hplace]
      rw [hpieces, hstart]
      exact .stay _ _ _ _ _ (Or.inl rfl) (.done _ _ _ hfound)

/-- Why a name below a path cannot be looked up, if it cannot. -/
def childFault? (p : Path) (name : String) : Option FileFault :=
  if (p.child name).text.toList.contains '\x00' then some .nulInPath
  else if (p.child name).text.utf8ByteSize > pathLimit then some .nameTooLong
  else if name.utf8ByteSize > nameLimit then some .nameTooLong
  else none

/-- A relative path below a directory is looked up in that directory, through at most as many links
as may be passed from there. -/
theorem Opens.resolveWith_join (h : fs.Opens p place entries) {q : Path}
    (hrelative : q.isAbsolute = false) (hempty : (p.join q).text ≠ "") (followLast : Bool) :
    ∃ fewer ≤ linkLimit, fs.resolveWith followLast (p.join q) =
      if (p.join q).text.toList.contains '\x00' then .error .nulInPath
      else if (p.join q).text.utf8ByteSize > pathLimit then .error .nameTooLong
      else follow fs.root followLast fewer place q.pieces := by
  obtain ⟨front, tail, hpieces, hjoin, htail⟩ := Path.pieces_join (p := p) hrelative
  have hblank : tail.all (· == "") = true := by
    obtain ⟨rfl, -⟩ | rfl := htail <;> rfl
  have hne : q.pieces ≠ [] := by simpa [Path.pieces] using Path.splitSlashes_ne_nil q.text.toList
  obtain ⟨fewer, hle, hfewer⟩ := h.reaches.follow_append followLast hpieces hblank hne
  have hstart : fs.start (p.join q) = fs.start p := by
    rw [start, start, Path.isAbsolute_join, hrelative, Bool.or_false]
  have hsome : ¬ ((p.join q).text == "") = true := by simpa using hempty
  refine ⟨fewer, hle, ?_⟩
  rw [resolveWith, if_neg hsome, hjoin, hstart, hfewer]

/-- A name below a directory is looked up in that directory. -/
theorem Opens.resolveWith_eq (h : fs.Opens p place entries) (hname : Path.IsStepName name)
    (followLast : Bool) :
    ∃ fewer, fs.resolveWith followLast (p.child name) =
      if (p.child name).text.toList.contains '\x00' then .error .nulInPath
      else if (p.child name).text.utf8ByteSize > pathLimit then .error .nameTooLong
      else follow fs.root followLast fewer place [name] := by
  have hrelative := Path.isAbsolute_name hname.head?_ne
  have hempty : (p.child name).text ≠ "" := by
    simp [Path.child, Path.text_join hrelative, hname.ne_empty]
  obtain ⟨fewer, -, hresolve⟩ := h.resolveWith_join hrelative hempty followLast
  rw [hname.pieces_eq] at hresolve
  exact ⟨fewer, hresolve⟩

/-- A name that cannot be looked up is refused. -/
theorem Opens.resolveWith_of_fault (h : fs.Opens p place entries) (hname : Path.IsStepName name)
    (followLast : Bool) {fault : FileFault} (hfault : childFault? p name = some fault) :
    fs.resolveWith followLast (p.child name) = .error fault ∧ fault ≠ .notFound := by
  obtain ⟨fewer, hresolve⟩ := h.resolveWith_eq hname followLast
  rw [hresolve]
  unfold childFault? at hfault
  split at hfault
  · next hnul =>
      cases hfault
      exact ⟨if_pos hnul, by simp⟩
  next hnul =>
  rw [if_neg hnul]
  split at hfault
  · next hlong =>
      cases hfault
      exact ⟨if_pos hlong, by simp⟩
  next hlong =>
  rw [if_neg hlong]
  split at hfault
  · next hsize =>
      cases hfault
      exact ⟨follow_long_name hname (Nat.not_le.mpr hsize), by simp⟩
  · cases hfault

/-- Any other name leads to what stands at it, unless that is a link to be followed. -/
theorem Opens.resolveWith_child (h : fs.Opens p place entries) (hname : Path.IsStepName name)
    (followLast : Bool) (hfault : childFault? p name = none)
    (hlink : followLast = true → ∀ text, fs.root.find? (place ++ [name]) ≠ some (.link text)) :
    fs.resolveWith followLast (p.child name) = .ok (targetAt fs.root place name) := by
  obtain ⟨fewer, hresolve⟩ := h.resolveWith_eq hname followLast
  rw [hresolve]
  unfold childFault? at hfault
  split at hfault
  · cases hfault
  next hnul =>
  split at hfault
  · cases hfault
  next hlong =>
  split at hfault
  · cases hfault
  next hsize =>
  rw [if_neg hnul, if_neg hlong]
  exact follow_name ⟨hname.ne_empty, hname.ne_dot, hname.ne_dots, Nat.le_of_not_gt hsize⟩
    h.find?_eq hlink

/-! ## What is done at a name -/

/-- A directory at a free name is made there and nowhere else, unless the name cannot be looked
up. -/
theorem Opens.makeDirs_child (h : fs.Opens p place entries) (hname : Path.IsStepName name)
    (hfree : fs.root.find? (place ++ [name]) = none) :
    fs.makeDirs (p.child name) =
      match childFault? p name with
      | some fault => (.error fault, fs)
      | none => (.ok (), fs.put (place ++ [name]) (.dir .empty)) := by
  obtain ⟨gap, htext, -⟩ := p.text_child hname.head?_ne
  have hempty : ¬ ((p.child name).text == "") = true := by simp [htext, hname.ne_empty]
  rw [makeDirs, if_neg hempty, ancestry, makeDirChain]
  cases hfault : childFault? p name with
  | some fault =>
      obtain ⟨hlink, hcause⟩ := h.resolveWith_of_fault hname false hfault
      obtain ⟨hresolve, -⟩ := h.resolveWith_of_fault hname true hfault
      have hmake : fs.makeDir (p.child name) = .error fault := by rw [makeDir, resolveLink, hlink]
      have hdir : fs.isDir (p.child name) = false := by rw [isDir, stat, resolve, hresolve]
      rw [hmake]
      cases fault with
      | notFound => exact absurd rfl hcause
      | _ => simp [hdir]
  | none =>
      have hlink := h.resolveWith_child hname false hfault (by simp)
      have hmake : fs.makeDir (p.child name) = .ok (fs.put (place ++ [name]) (.dir .empty)) := by
        rw [makeDir, resolveLink, hlink, targetAt, hfree]
      rw [hmake]

/-- A walk below a name starts at what stands there, unless that is a link. -/
theorem Opens.walkStart?_child (h : fs.Opens p place entries) (hname : Path.IsStepName name)
    (hfault : childFault? p name = none)
    (hlink : ∀ text, fs.root.find? (place ++ [name]) ≠ some (.link text)) :
    fs.walkStart? (p.child name) = fs.root.find? (place ++ [name]) := by
  have hresolve := h.resolveWith_child hname false hfault (by simp)
  rw [walkStart?, resolveLink, hresolve, targetAt]
  cases hfound : fs.root.find? (place ++ [name]) with
  | none => rfl
  | some node =>
      cases node with
      | dir | file => rfl
      | link text => exact absurd hfound (hlink text)

/-- What is listed depends on nothing but what the walk starts at. -/
theorem listFiles_congr (h : other.walkStart? p = fs.walkStart? p) :
    other.listFiles p = fs.listFiles p := by
  rw [listFiles, listFiles, regularFiles, regularFiles, walkFiles, walkFiles, h]

/-- What a walk starts at stands somewhere in the file system. -/
theorem find?_of_walkStart? {node : Node} (h : fs.walkStart? p = some node) :
    ∃ place, fs.root.find? place = some node := by
  cases node with
  | link => exact absurd h walkStart?_ne_link
  | dir =>
      obtain ⟨place, hstat⟩ := walkStart?_eq_dir_iff.mp h
      exact ⟨place, find?_of_stat hstat⟩
  | file =>
      obtain ⟨place, hlink⟩ := walkStart?_eq_file_iff.mp h
      exact ⟨place, (resolveWith_eq_ok_iff.mp hlink).2.find?_eq⟩

end LintRoster.FileSystem
