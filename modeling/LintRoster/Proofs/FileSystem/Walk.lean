import LintRoster.FileSystem

/-!
# Walks as derivations

`Reaches` is the executable `follow` as a relation: one constructor for each thing that the next
piece of a path can stand for. `reaches_iff` shows that they agree, so that a fact about resolved
paths is one induction over a derivation.
-/

namespace LintRoster.FileSystem

/-- A piece of a path that has to be looked up, and is short enough for it. -/
structure IsEntryName (piece : String) : Prop where
  ne_empty : piece ≠ ""
  ne_dot : piece ≠ "."
  ne_dots : piece ≠ ".."
  size_le : piece.utf8ByteSize ≤ nameLimit

/-- `Reaches root followLast links place pieces target` says the pieces lead from a place to the
target, through at most `links` links. -/
inductive Reaches (root : Directory) (followLast : Bool) :
    Nat → List String → List String → Target → Prop where
  | done (links place node) :
      root.find? place = some node → Reaches root followLast links place [] (.node place node)
  | stay (links place piece rest target) :
      piece = "" ∨ piece = "." → Reaches root followLast links place rest target →
      Reaches root followLast links place (piece :: rest) target
  | up (links place rest target) :
      Reaches root followLast links place.dropLast rest target →
      Reaches root followLast links place (".." :: rest) target
  | free (links place piece rest entries) :
      IsEntryName piece → root.find? (place ++ [piece]) = none → rest.all (· == "") = true →
      root.find? place = some (.dir entries) →
      Reaches root followLast links place (piece :: rest) (.free place piece)
  | dir (links place piece rest entries target) :
      IsEntryName piece → root.find? (place ++ [piece]) = some (.dir entries) →
      Reaches root followLast links (place ++ [piece]) rest target →
      Reaches root followLast links place (piece :: rest) target
  | file (links place piece bytes executable) :
      IsEntryName piece → root.find? (place ++ [piece]) = some (.file bytes executable) →
      Reaches root followLast links place [piece]
        (.node (place ++ [piece]) (.file bytes executable))
  | lastLink (links place piece text) :
      IsEntryName piece → root.find? (place ++ [piece]) = some (.link text) → followLast = false →
      Reaches root followLast links place [piece] (.node (place ++ [piece]) (.link text))
  | link (links place piece rest text target) :
      IsEntryName piece → root.find? (place ++ [piece]) = some (.link text) →
      (rest = [] → followLast = true) → text ≠ "" →
      Reaches root followLast links (if (Path.mk text).isAbsolute then [] else place)
        ((Path.mk text).pieces ++ rest) target →
      Reaches root followLast (links + 1) place (piece :: rest) target

variable {root : Directory} {followLast : Bool}

/-- What a walk does behind a link, with so many links left. -/
def behind (root : Directory) (followLast : Bool) :
    Nat → List String → List String → Except FileFault Target
  | 0 => fun _ _ => .error .tooManyLinks
  | links + 1 => follow root followLast links

/-- Following pieces is one walk, up to the first link that is followed. -/
theorem follow_eq_walk (links : Nat) :
    follow root followLast links = walk root followLast (behind root followLast links) := by
  cases links <;> rfl

/-- A directory stands where it is held. -/
theorem holdsDir_iff {place : List String} :
    holdsDir root place = true ↔ ∃ entries, root.find? place = some (.dir entries) := by
  unfold holdsDir
  split
  · next entries h => simp [h]
  · next h => simpa using h

/-- Pieces that are followed to a target reach it, if they do so behind the first link. -/
theorem reaches_of_walk {links : Nat}
    (hbehind : ∀ place pieces target, behind root followLast links place pieces = .ok target →
      ∃ fewer, links = fewer + 1 ∧ Reaches root followLast fewer place pieces target)
    {pieces : List String} : ∀ {place target},
    walk root followLast (behind root followLast links) place pieces = .ok target →
      Reaches root followLast links place pieces target := by
  induction pieces with
  | nil =>
      intro place target h
      rw [walk] at h
      split at h <;> cases h
      next hfound => exact .done links place _ hfound
  | cons piece rest ih =>
      intro place target h
      rw [walk] at h
      split at h
      · next hstay => exact .stay links place piece rest target (by simpa using hstay) (ih h)
      next hstay =>
      split at h
      · next hup =>
          obtain rfl : piece = ".." := by simpa using hup
          exact .up links place rest target (ih h)
      next hup =>
      split at h
      · cases h
      next hlength =>
      have hname : IsEntryName piece := by
        simp only [Bool.or_eq_true, beq_iff_eq, not_or] at hstay hup
        exact ⟨hstay.1, hstay.2, hup, Nat.le_of_not_gt hlength⟩
      split at h
      · next hnone =>
          split at h <;> cases h
          next hfree =>
          obtain ⟨hrest, hheld⟩ := Bool.and_eq_true_iff.mp hfree
          obtain ⟨entries, hentries⟩ := holdsDir_iff.mp hheld
          exact .free links place piece rest entries hname hnone hrest hentries
      · next entries hdir => exact .dir links place piece rest entries target hname hdir (ih h)
      · next hfile =>
          split at h <;> cases h
          next hend =>
          cases List.isEmpty_iff.mp hend
          exact .file links place piece _ _ hname hfile
      · next text hlink =>
          split at h
          · next hlast =>
              cases h
              obtain ⟨hend, hkept⟩ := Bool.and_eq_true_iff.mp hlast
              cases List.isEmpty_iff.mp hend
              exact .lastLink links place piece text hname hlink (by simpa using hkept)
          next hlast =>
          split at h
          · cases h
          next htext =>
          obtain ⟨fewer, rfl, hreaches⟩ := hbehind _ _ _ h
          refine .link fewer place piece rest text target hname hlink ?_ (by simpa using htext)
            hreaches
          -- A link with nothing behind it was followed, so it had to be.
          rintro rfl
          simpa using hlast

/-- Pieces that are followed to a target reach it. -/
theorem reaches_of_follow {links : Nat} : ∀ {place pieces target},
    follow root followLast links place pieces = .ok target →
      Reaches root followLast links place pieces target := by
  -- A walk needs to know about one link at a time; the induction on the number of links supplies it.
  induction links with
  | zero =>
      intro place pieces target h
      refine reaches_of_walk ?_ h
      intro _ _ _ hbehind
      cases hbehind
  | succ links ih =>
      intro place pieces target h
      refine reaches_of_walk ?_ h
      intro _ _ _ hbehind
      exact ⟨links, rfl, ih hbehind⟩

/-- The piece of an entry's name is looked up. -/
theorem IsEntryName.walk_cons {piece : String} (h : IsEntryName piece)
    (enter : List String → List String → Except FileFault Target) (place rest : List String) :
    walk root followLast enter place (piece :: rest) =
      match root.find? (place ++ [piece]) with
      | none =>
        if rest.all (· == "") && holdsDir root place then .ok (.free place piece)
        else .error .notFound
      | some (.dir _) => walk root followLast enter (place ++ [piece]) rest
      | some (.file bytes executable) =>
        if rest.isEmpty then .ok (.node (place ++ [piece]) (.file bytes executable))
        else .error .notDirectory
      | some (.link target) =>
        if rest.isEmpty && !followLast then .ok (.node (place ++ [piece]) (.link target))
        else if target == "" then .error .notFound
        else enter (if (Path.mk target).isAbsolute then [] else place)
          ((Path.mk target).pieces ++ rest) := by
  have hstay : ¬ (piece == "" || piece == ".") = true := by simp [h.ne_empty, h.ne_dot]
  have hup : ¬ (piece == "..") = true := by simp [h.ne_dots]
  rw [walk, if_neg hstay, if_neg hup]
  exact if_neg (Nat.not_lt.mpr h.size_le)

/-- Pieces that reach a target are followed to it. -/
theorem follow_of_reaches {links : Nat} {place pieces : List String} {target : Target}
    (h : Reaches root followLast links place pieces target) :
    follow root followLast links place pieces = .ok target := by
  induction h with
  | done links place node hfound => rw [follow_eq_walk, walk, hfound]
  | stay links place piece rest target hstay _ ih =>
      rw [follow_eq_walk, walk, if_pos (by simpa using hstay), ← follow_eq_walk, ih]
  | up links place rest target _ ih =>
      rw [follow_eq_walk, walk, if_neg (by decide), if_pos (by decide), ← follow_eq_walk, ih]
  | free links place piece rest entries hname hnone hrest hentries =>
      have hheld : holdsDir root place = true := holdsDir_iff.mpr ⟨entries, hentries⟩
      rw [follow_eq_walk, hname.walk_cons, hnone]
      simp only [hrest, hheld, Bool.and_self, if_true]
  | dir links place piece rest entries target hname hdir _ ih =>
      rw [follow_eq_walk, hname.walk_cons, hdir, ← follow_eq_walk]
      exact ih
  | file links place piece bytes executable hname hfile =>
      rw [follow_eq_walk, hname.walk_cons, hfile]
      rfl
  | lastLink links place piece text hname hlink hlast =>
      rw [follow_eq_walk, hname.walk_cons, hlink]
      simp only [hlast, List.isEmpty_nil, Bool.not_false, Bool.and_self, if_true]
  | link links place piece rest text target hname hlink hrest htext _ ih =>
      have hfollowed : ¬ (rest.isEmpty && !followLast) = true := by
        simpa using hrest
      have hsome : ¬ (text == "") = true := by simpa using htext
      rw [follow_eq_walk, hname.walk_cons, hlink]
      simp only [if_neg hfollowed, if_neg hsome]
      exact ih

/-- `Reaches` holds exactly for what pieces are followed to. -/
theorem reaches_iff {links : Nat} {place pieces : List String} {target : Target} :
    Reaches root followLast links place pieces target ↔
      follow root followLast links place pieces = .ok target :=
  ⟨follow_of_reaches, reaches_of_follow⟩

end LintRoster.FileSystem
