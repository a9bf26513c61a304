import LintRoster.Path

/-!
# The algebra of joining

What a join puts between two paths is `Path.gap`, and it depends on the left one only. So joining is
associative, which is `join_assoc`: a path that is read from a directory which is itself read from
another one can be joined from either end.
-/

namespace LintRoster.Path

variable {p q : Path}

/-- What stands between a path and a relative one that is joined to it: a slash, unless the path is
empty or ends in one. -/
def gap (p : Path) : String :=
  match p.text.toList.getLast? with
  | none | some '/' => ""
  | some _ => "/"

/-- An absolute path replaces what it is joined to. -/
theorem join_of_absolute (hq : q.isAbsolute = true) : p.join q = q :=
  if_pos hq

/-- A relative path is put behind what it is joined to and a gap. -/
theorem text_join (hq : q.isAbsolute = false) : (p.join q).text = p.text ++ p.gap ++ q.text := by
  rw [join, if_neg (by simp [hq]), gap]
  cases hlast : p.text.toList.getLast? with
  | none =>
      have hempty : p.text = "" := by simpa using hlast
      simp [hempty]
  | some c =>
      by_cases hc : c = '/'
      · simp [hc]
      · simp

/-- There is no gap behind the empty path. -/
theorem gap_of_empty (hp : p.text = "") : p.gap = "" := by
  simp [gap, hp]

/-- The gap behind a path depends on nothing but its last character. -/
theorem gap_congr (h : p.text.toList.getLast? = q.text.toList.getLast?) : p.gap = q.gap := by
  rw [gap, gap, h]

/-- There is no gap behind a gap. -/
theorem gap_append_gap (p : Path) : gap ⟨p.text ++ p.gap⟩ = "" := by
  unfold gap
  cases hlast : p.text.toList.getLast? with
  | none => simp [hlast]
  | some c =>
      by_cases hc : c = '/'
      · simp [hc, hlast]
      · simp

/-- The gap behind joined paths is the one behind the last of them. -/
theorem gap_join (p q : Path) : (p.join q).gap = q.gap := by
  cases hq : q.isAbsolute with
  | true => rw [join_of_absolute hq]
  | false =>
      by_cases hempty : q.text = ""
      · have htext := text_join (p := p) hq
        rw [hempty, String.append_empty] at htext
        rw [gap_of_empty hempty, ← gap_append_gap p, ← htext]
      · refine gap_congr ?_
        have hlist : q.text.toList ≠ [] := by simpa using hempty
        rw [text_join hq, String.toList_append, List.getLast?_append,
          Option.or_of_isSome (List.getLast?_isSome.mpr hlist)]

/-- What is put behind a path that is not empty does not make it absolute, or relative. -/
theorem isAbsolute_append (hp : p.text ≠ "") (more : String) :
    isAbsolute ⟨p.text ++ more⟩ = p.isAbsolute := by
  have hlist : p.text.toList ≠ [] := by simpa using hp
  rw [isAbsolute, isAbsolute, String.toList_append, List.head?_append,
    Option.or_of_isSome (List.isSome_head?.mpr hlist)]

/-- Joined paths are absolute if and only if one of them is. -/
theorem isAbsolute_join (p q : Path) : (p.join q).isAbsolute = (p.isAbsolute || q.isAbsolute) := by
  cases hq : q.isAbsolute with
  | true => rw [join_of_absolute hq, hq, Bool.or_true]
  | false =>
      have hjoin : p.join q = ⟨p.text ++ (p.gap ++ q.text)⟩ := by
        rw [← String.append_assoc, ← text_join hq]
      by_cases hempty : p.text = ""
      · have hp : p.isAbsolute = false := by simp [isAbsolute, hempty]
        rw [hjoin, hp, gap_of_empty hempty, hempty]
        simpa using hq
      · rw [hjoin, isAbsolute_append hempty, Bool.or_false]

/-- Paths can be joined from either end. -/
theorem join_assoc (p q r : Path) : (p.join q).join r = p.join (q.join r) := by
  cases hr : r.isAbsolute with
  | true =>
      have hqr : (q.join r).isAbsolute = true := by rw [isAbsolute_join, hr, Bool.or_true]
      rw [join_of_absolute hr, join_of_absolute hqr, join_of_absolute hr]
  | false =>
      cases hq : q.isAbsolute with
      | true =>
          have hqr : (q.join r).isAbsolute = true := by rw [isAbsolute_join, hq, Bool.true_or]
          rw [join_of_absolute hq, join_of_absolute hqr]
      | false =>
          have hqr : (q.join r).isAbsolute = false := by rw [isAbsolute_join, hq, hr, Bool.or_false]
          have htext : ((p.join q).join r).text = (p.join (q.join r)).text := by
            rw [text_join hr, text_join hq, text_join hqr, text_join hr, gap_join]
            simp only [String.append_assoc]
          exact congrArg Path.mk htext

end LintRoster.Path
