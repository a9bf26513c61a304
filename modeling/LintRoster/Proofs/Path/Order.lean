import LintRoster.Path
import Mathlib.Data.List.Lex

/-!
# The order of paths

Paths are compared step by step. `Path.Before` says when a path comes before another one: it ends
where the other goes on, or its step is the smaller one where the two differ first.
`compareComponents_eq_lt_iff` says that the comparison of paths decides just this.
-/

namespace LintRoster.Path

namespace Component

/-- `a.Before b` says the step is the smaller one of two. -/
def Before (a b : Component) : Prop :=
  a.compare b = .lt

/-- No comparison of two steps takes different steps for the same. -/
theorem compare_eq_eq_iff {a b : Component} : a.compare b = .eq ↔ a = b := by
  cases a <;> cases b <;> simp [compare, rank]

/-- Names are compared as texts. -/
theorem before_name_iff {a b : String} : (name a).Before (name b) ↔ a < b :=
  compareOfLessAndEq_eq_lt

/-- No step is smaller than itself. -/
theorem Before.irrefl (a : Component) : ¬ a.Before a := by
  rw [Before, compare_eq_eq_iff.mpr rfl]
  exact nofun

end Component

/-- The comparison of two lists of steps finds the first smaller exactly if it comes first in the
lexicographic order. -/
theorem compareComponents_eq_lt_iff {as bs : List Component} :
    compareComponents as bs = .lt ↔ List.Lex Component.Before as bs := by
  induction as generalizing bs with
  | nil =>
      cases bs with
      | nil => exact ⟨nofun, nofun⟩
      | cons b bs => exact ⟨fun _ ↦ .nil, fun _ ↦ rfl⟩
  | cons a as ih =>
      cases bs with
      | nil => exact ⟨nofun, nofun⟩
      | cons b bs =>
          rw [compareComponents]
          constructor
          · intro h
            cases hstep : a.compare b with
            | lt => exact .rel hstep
            | eq =>
                obtain rfl := Component.compare_eq_eq_iff.mp hstep
                rw [hstep] at h
                exact .cons (ih.mp h)
            | gt =>
                rw [hstep] at h
                cases h
          · rintro (_ | hstep | hrest)
            · rw [show a.compare b = .lt from hstep]
              rfl
            · rw [Component.compare_eq_eq_iff.mpr rfl]
              exact ih.mpr hrest

/-- `p.Before q` says the steps of `p` come before those of `q`. -/
def Before (p q : Path) : Prop :=
  List.Lex Component.Before p.components q.components

/-- No path comes before itself. -/
theorem Before.irrefl (p : Path) : ¬ p.Before p :=
  List.lex_irrefl Component.Before.irrefl _

variable {p q : Path}

/-- A path that comes before another one is not the other. -/
theorem Before.ne (h : p.Before q) : p ≠ q := by
  rintro rfl
  exact Before.irrefl p h

/-- Paths that come before others are sorted in front of them. -/
theorem Before.le (h : p.Before q) : p.le q = true := by
  rw [Path.le, compareComponents_eq_lt_iff.mpr h]
  rfl

/-- A path is before another one if a name of it is smaller than the name in its place, behind the
same steps. -/
theorem Before.of_names {common as bs : List Component} {a b : String}
    (hp : p.components = common ++ .name a :: as) (hq : q.components = common ++ .name b :: bs)
    (h : a < b) : p.Before q := by
  rw [Before, hp, hq]
  exact .append_left _ (.rel (Component.before_name_iff.mpr h)) common

/-- A slash is in front of a hyphen, although the text of the one path is behind that of the
other. -/
example : Before ⟨"a/x"⟩ ⟨"a-b"⟩ ∧ "a-b" < "a/x" :=
  ⟨compareComponents_eq_lt_iff.mp (by decide), by decide⟩

end LintRoster.Path
