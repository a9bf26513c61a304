import LintRoster.FileSystem
import LintRoster.Proofs.Path.Join

/-!
# The place that a path denotes

`Path.placeFrom` is the place that a path denotes for a process with a given current directory: its
names from the root on, with dots and double dots taken away. `FileSystem.resolve_place` shows that
a file system without links resolves a path to this place. A path denotes the same place from two
directories exactly if it is absolute, or if it climbs high enough to leave the difference between
the two behind, which is `Path.placeFrom_eq_iff`.
-/

namespace LintRoster

namespace Path

/-- One piece of a path leads from one place to the next. -/
def stepFrom (place : List String) (piece : String) : List String :=
  if piece == "" || piece == "." then place
  else if piece == ".." then place.dropLast
  else place ++ [piece]

/-- The place that a path denotes for a process whose current directory is `base`. -/
def placeFrom (base : List String) (p : Path) : List String :=
  p.pieces.foldl stepFrom (if p.isAbsolute then [] else base)

/-- What a relative path amounts to: steps up, and then names. -/
structure Descent where
  climb : Nat
  names : List String

namespace Descent

/-- One more piece goes back by a name or up, stays, or adds a name. -/
def step (d : Descent) (piece : String) : Descent :=
  if piece == "" || piece == "." then d
  else if piece == ".." then
    if d.names.isEmpty then { d with climb := d.climb + 1 }
    else { d with names := d.names.dropLast }
  else { d with names := d.names ++ [piece] }

end Descent

/-- What the pieces of a path amount to. -/
def descent (p : Path) : Descent :=
  p.pieces.foldl Descent.step ⟨0, []⟩

/-- The place that is `n` steps above a place. Nothing is above the root. -/
def up (n : Nat) (place : List String) : List String :=
  place.take (place.length - n)

/-- Zero steps up lead nowhere else. -/
@[simp]
theorem up_zero (place : List String) : up 0 place = place := by
  simp [up]

/-- One step more leads to the parent. -/
theorem up_succ (n : Nat) (place : List String) : up (n + 1) place = (up n place).dropLast := by
  rw [up, up, List.dropLast_eq_take, List.take_take, List.length_take]
  congr 1
  omega

/-- A piece leads from a place to where its descent leads. -/
theorem stepFrom_up (base : List String) (d : Descent) (piece : String) :
    stepFrom (up d.climb base ++ d.names) piece =
      up (d.step piece).climb base ++ (d.step piece).names := by
  unfold stepFrom Descent.step
  by_cases hstay : (piece == "" || piece == ".") = true
  · simp only [hstay, if_true]
  by_cases hup : (piece == "..") = true
  · simp only [hstay, hup, if_true, Bool.false_eq_true, if_false]
    cases hnames : d.names with
    | nil => simp [up_succ]
    | cons name names => simp [List.dropLast_append_of_ne_nil]
  · simp only [hstay, hup, Bool.false_eq_true, if_false, List.append_assoc]

/-- Pieces lead from a place to where their descent leads. -/
theorem foldl_stepFrom_up (base : List String) (pieces : List String) : ∀ d : Descent,
    pieces.foldl stepFrom (up d.climb base ++ d.names) =
      up (pieces.foldl Descent.step d).climb base ++ (pieces.foldl Descent.step d).names := by
  -- The invariant is that the place reached so far is where the descent so far leads from `base`.
  induction pieces with
  | nil =>
      intro d
      rfl
  | cons piece pieces ih =>
      intro d
      rw [List.foldl_cons, stepFrom_up, ih, List.foldl_cons]

/-- A relative path denotes the place some steps up and then along some names. -/
theorem placeFrom_of_relative {p : Path} (hrelative : p.isAbsolute = false) (base : List String) :
    p.placeFrom base = up p.descent.climb base ++ p.descent.names := by
  simpa [placeFrom, hrelative, descent] using foldl_stepFrom_up base p.pieces ⟨0, []⟩

/-- An absolute path denotes the same place from everywhere. -/
theorem placeFrom_of_absolute {p : Path} (habsolute : p.isAbsolute = true) (a b : List String) :
    p.placeFrom a = p.placeFrom b := by
  simp [placeFrom, habsolute]

/-- A path denotes the same place from two directories exactly if it is absolute, or if both
directories are the same as high up as the path climbs. -/
theorem placeFrom_eq_iff {p : Path} {a b : List String} :
    p.placeFrom a = p.placeFrom b ↔
      p.isAbsolute = true ∨ up p.descent.climb a = up p.descent.climb b := by
  cases hkind : p.isAbsolute with
  | true => simp [placeFrom_of_absolute hkind a b]
  | false =>
      rw [placeFrom_of_relative hkind, placeFrom_of_relative hkind, List.append_left_inj]
      simp

/-- A name that does not begin with a slash is a relative path. -/
theorem isAbsolute_name {name : String} (hname : name.toList.head? ≠ some '/') :
    isAbsolute ⟨name⟩ = false := by
  simpa [isAbsolute] using hname

/-- The text of a child with a relative name is that of its parent, a gap and the name. There is no
gap behind an empty text. -/
theorem text_child (p : Path) {name : String} (hname : name.toList.head? ≠ some '/') :
    ∃ gap, (p.child name).text = p.text ++ gap ++ name ∧ (p.text = "" → gap = "") :=
  ⟨p.gap, text_join (isAbsolute_name hname), gap_of_empty⟩

/-- A relative name makes a path longer by at least its own length. -/
theorem utf8ByteSize_child_le (p : Path) {name : String} (hname : name.toList.head? ≠ some '/') :
    p.text.utf8ByteSize + name.utf8ByteSize ≤ (p.child name).text.utf8ByteSize := by
  obtain ⟨gap, htext, -⟩ := p.text_child hname
  rw [htext, String.utf8ByteSize_append, String.utf8ByteSize_append]
  omega

/-- A child with a relative name is absolute exactly if its parent is. -/
theorem isAbsolute_child (p : Path) {name : String} (hname : name.toList.head? ≠ some '/') :
    (p.child name).isAbsolute = p.isAbsolute := by
  rw [child, isAbsolute_join, isAbsolute_name hname, Bool.or_false]

end Path

namespace FileSystem

/-- The place that a resolved path leads to, whether something stands there or not. -/
def Target.place : Target → List String
  | .node place _ => place
  | .free parent name => parent ++ [name]

/-- No link stands in the file tree. -/
def LinkFree (root : Directory) : Prop :=
  ∀ place target, root.find? place ≠ some (.link target)

/-- No link stands in an empty directory. -/
theorem LinkFree.empty : LinkFree .empty := by
  rintro (_ | ⟨name, names⟩) target
  · simp [Directory.find?]
  · simp [Directory.find?, Directory.get?]

/-- A directory without links can be put in front of other entries without links. -/
theorem LinkFree.entry_dir {name : String} {sub rest : Directory} (hsub : LinkFree sub)
    (hrest : LinkFree rest) : LinkFree (.entry name (.dir sub) rest) := by
  rintro (_ | ⟨other, names⟩) target
  · simp [Directory.find?]
  · have hother := hrest (other :: names) target
    rw [Directory.find?] at hother ⊢
    rw [Directory.get?]
    by_cases hname : name = other
    · rw [if_pos hname]
      exact hsub names target
    · rw [if_neg hname]
      exact hother

/-- Empty pieces lead nowhere. -/
theorem foldl_stepFrom_empty {pieces : List String} (h : pieces.all (· == "") = true)
    (place : List String) : pieces.foldl Path.stepFrom place = place := by
  induction pieces with
  | nil => rfl
  | cons piece pieces ih =>
      simp only [List.all_cons, Bool.and_eq_true] at h
      rw [List.foldl_cons, Path.stepFrom, h.1, Bool.true_or, if_pos rfl, ih h.2]

/-- Without links a walk ends at the place that its pieces lead to. -/
theorem walk_place {root : Directory} (hfree : LinkFree root) {followLast : Bool}
    {enter : List String → List String → Except FileFault Target} {target : Target}
    (pieces : List String) : ∀ place,
    walk root followLast enter place pieces = .ok target →
      target.place = pieces.foldl Path.stepFrom place := by
  -- Only a link could send the walk elsewhere than its pieces do, and there is none.
  induction pieces with
  | nil =>
      intro place h
      rw [walk] at h
      split at h <;> cases h
      rfl
  | cons piece rest ih =>
      intro place h
      rw [walk] at h
      rw [List.foldl_cons, Path.stepFrom]
      split at h
      · next hstay => rw [if_pos hstay, ih _ h]
      · next hstay =>
          rw [if_neg hstay]
          split at h
          · next hup => rw [if_pos hup, ih _ h]
          · next hup =>
              rw [if_neg hup]
              split at h
              · cases h
              split at h
              · split at h <;> cases h
                next hend =>
                  rw [foldl_stepFrom_empty (Bool.and_eq_true_iff.mp hend).1, Target.place]
              · exact ih _ h
              · split at h <;> cases h
                next hend => rw [List.isEmpty_iff.mp hend, List.foldl_nil, Target.place]
              · next hlink => exact absurd hlink (hfree _ _)

/-- A file system without links resolves a path to the place that it denotes. -/
theorem resolve_place {root : Directory} (hfree : LinkFree root) {base : List String} {p : Path}
    {target : Target} (h : resolve ⟨root, base⟩ p = .ok target) :
    target.place = p.placeFrom base := by
  unfold resolve resolveWith at h
  split at h
  · cases h
  split at h
  · cases h
  split at h
  · cases h
  · rw [linkLimit, follow] at h
    exact walk_place hfree p.pieces _ h

end FileSystem

end LintRoster
