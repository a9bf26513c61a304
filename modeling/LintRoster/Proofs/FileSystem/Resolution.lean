import LintRoster.FileSystem

/-!
# Links at the end of a path

A path can be resolved in two ways: through a link at its end, or up to it. `resolveLink_agrees`
says how far the two can differ: either they give the same answer, or the second stops at a link.
-/

namespace LintRoster.FileSystem

/-- Two answers of a resolution agree up to a last link: they are equal, or the first one is a
link. -/
def AgreeUpToLink (short long : Except FileFault Target) : Prop :=
  short = long ∨ ∃ place target, short = .ok (.node place (.link target))

variable {root : Directory}

/-- A walk that stops at a last link agrees with one that follows it, if what they do behind
links before the end agrees. -/
theorem walk_agrees {stop go : List String → List String → Except FileFault Target}
    (henter : ∀ place pieces, AgreeUpToLink (stop place pieces) (go place pieces))
    (pieces place : List String) :
    AgreeUpToLink (walk root false stop place pieces) (walk root true go place pieces) := by
  induction pieces generalizing place with
  | nil => exact Or.inl rfl
  | cons piece rest ih =>
      simp only [walk]
      split
      · exact ih place
      split
      · exact ih place.dropLast
      split
      · exact Or.inl rfl
      split
      · exact Or.inl rfl
      · exact ih (place ++ [piece])
      · exact Or.inl rfl
      · next target _ =>
          -- The two walks part only at a link with no piece behind it.
          cases hrest : rest.isEmpty
          · simp only [Bool.false_and, Bool.false_eq_true, if_false]
            split
            · exact Or.inl rfl
            · exact henter _ _
          · exact Or.inr ⟨_, target, rfl⟩

/-- Resolution through any number of links agrees up to a last link. -/
theorem follow_agrees (links : Nat) (place pieces : List String) :
    AgreeUpToLink (follow root false links place pieces) (follow root true links place pieces) := by
  induction links generalizing place pieces with
  | zero => exact walk_agrees (fun _ _ ↦ Or.inl rfl) pieces place
  | succ links ih => exact walk_agrees ih pieces place

/-- Resolving a path up to a last link gives what resolving it through that link gives, or the
link. -/
theorem resolveLink_agrees (fs : FileSystem) (p : Path) :
    AgreeUpToLink (fs.resolveLink p) (fs.resolve p) := by
  simp only [resolveLink, resolve, resolveWith]
  split
  · exact Or.inl rfl
  split
  · exact Or.inl rfl
  split
  · exact Or.inl rfl
  · exact follow_agrees linkLimit _ _

end LintRoster.FileSystem
