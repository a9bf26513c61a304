import LintRoster.Proofs.Text.Words

/-!
# Joined texts and their parts

Texts are joined by commas with a space behind each. `split_intercalate` says that cutting the
result at every comma with a space behind it gives the texts back if none of them holds a blank
character, even if some begin or end with commas: the space of a joint is the first one behind the
text, so no cut can begin within the text.
-/

namespace LintRoster.Text

open String.Slice.Pattern String.Slice.Pattern.Model

/-- A joint does not begin within an unspaced text, unless what follows the text begins with a
space. -/
theorem eq_empty_of_append_eq_joint {text rest after : String} (htext : Unspaced text)
    (hrest : rest.toList.head? ≠ some ' ') (h : text ++ rest = ", " ++ after) : text = "" := by
  have hchars : text.toList ++ rest.toList = ',' :: ' ' :: after.toList := by
    simpa using congrArg String.toList h
  cases hcs : text.toList with
  | nil => simpa using hcs
  | cons c cs =>
      rw [hcs, List.cons_append] at hchars
      obtain ⟨-, htail⟩ := List.cons.inj hchars
      cases cs with
      | nil =>
          rw [List.nil_append] at htail
          exact absurd (by rw [htail]; rfl) hrest
      | cons d cs =>
          obtain ⟨rfl, -⟩ := List.cons.inj htail
          -- The character behind the comma would be a space within the text.
          cases htext ' ' (by simp [hcs])

section

variable {s : String.Slice} {p q : s.Pos} {before name rest : String}

/-- The part of a text between two positions is what stands between them. -/
theorem copy_slice_eq (hp : p.Splits before (name ++ rest)) (hq : q.Splits (before ++ name) rest)
    (hle : p ≤ q) : (s.slice p q hle).copy = name := by
  obtain ⟨_, hcopy⟩ := String.Slice.copy_slice_eq_iff_splits.mpr ⟨before, rest, hp, hq⟩
  exact hcopy

/-- No position between the ends of an unspaced text is one at which a joint begins. -/
theorem not_matchesAt_joint (hname : Unspaced name) (hrest : rest.toList.head? ≠ some ' ')
    (hp : p.Splits before (name ++ rest)) (hq : q.Splits (before ++ name) rest) (x : s.Pos)
    (hpx : p ≤ x) (hxq : x < q) : ¬ MatchesAt ", " x := by
  intro hmatch
  obtain ⟨front, after, hx⟩ := ForwardStringSearcher.matchesAt_iff_splits.mp hmatch
  obtain ⟨done, hdone, -⟩ := (hp.le_iff_exists_eq_append hx).mp hpx
  obtain ⟨left, hne, hleft, hafter⟩ := (hx.lt_iff_exists_eq_append hq).mp hxq
  have hparts : name = done ++ left := by
    rw [hdone, String.append_assoc] at hleft
    simpa using hleft
  refine hne (eq_empty_of_append_eq_joint (fun c hc ↦ hname c ?_) hrest hafter.symm)
  rw [hparts, String.toList_append]
  exact List.mem_append_right _ hc

/-- Cutting at the joints gives unspaced texts back, from any position at which they begin. -/
theorem modelSplit_intercalate [StrictPatternModel ", "] {names : List String} (hne : names ≠ [])
    (hnames : ∀ name ∈ names, Unspaced name) : ∀ {before : String} {p : s.Pos},
    p.Splits before (", ".intercalate names) →
      (Model.split ", " p p (Std.le_refl p)).map (fun part ↦ part.toSlice.copy) = names := by
  -- What is cut off already is general, because each text is cut off in front of the others.
  induction names with
  | nil => exact absurd rfl hne
  | cons name names ih =>
      obtain ⟨hname, hothers⟩ := List.forall_mem_cons.mp hnames
      intro before p hp
      cases names with
      | nil =>
          rw [String.intercalate_singleton, ← String.append_empty (s := name)] at hp
          have hend : s.endPos.Splits (before ++ name) "" := by
            rw [String.Slice.splits_endPos_iff, hp.eq_append, String.append_empty]
            exact ⟨rfl, rfl⟩
          have hle : p ≤ s.endPos := String.Slice.Pos.le_endPos p
          rw [split_eq_of_not_matchesAt s.endPos hle (not_matchesAt_joint hname (by simp) hp hend),
            split_endPos, List.map_singleton, String.Slice.toSlice_subslice, copy_slice_eq hp hend]
      | cons other names =>
          rw [String.intercalate_cons_cons, String.append_assoc] at hp
          have hq := hp.splits_rotateRight
          generalize hp.rotateRight = q at hq
          have hr := hq.splits_rotateRight
          generalize hq.rotateRight = r at hr
          have hle : p ≤ q := (hp.le_iff_exists_eq_append hq).mpr ⟨name, rfl, rfl⟩
          have hjoint : IsLongestMatchAt ", " q r :=
            ForwardStringSearcher.isLongestMatchAt_iff_splits.mpr ⟨_, _, hq, hr⟩
          rw [split_eq_of_not_matchesAt q hle (not_matchesAt_joint hname (by simp) hp hq),
            split_eq_of_isLongestMatchAt hjoint, List.map_cons, String.Slice.toSlice_subslice,
            copy_slice_eq hp hq, ih (List.cons_ne_nil _ _) hothers hr]

end

/-- Unspaced texts that are joined by commas with a space behind each are given back by cutting the
result at every comma with a space behind it. -/
theorem split_intercalate {names : List String} (hne : names ≠ [])
    (hnames : ∀ name ∈ names, Unspaced name) :
    ((", ".intercalate names).split ", ").toList.map String.Slice.copy = names := by
  have hjoint : ", " ≠ "" := by decide
  have := ForwardStringSearcher.strictPatternModel hjoint
  have := ForwardStringSearcher.lawfulToForwardSearcherModel hjoint
  have hstart : (", ".intercalate names).toSlice.startPos.Splits "" (", ".intercalate names) := by
    rw [String.Slice.splits_startPos_iff, String.copy_toSlice]
    exact ⟨rfl, rfl⟩
  rw [String.split_eq_split_toSlice, String.Slice.toList_split_eq_splitToSubslice,
    toList_splitToSubslice_eq_modelSplit, List.map_map]
  exact modelSplit_intercalate hne hnames hstart

/-- Texts with commas at their ends are told apart from the joints. -/
example :
    ((", ".intercalate [",a,", "b,,"]).split ", ").toList.map String.Slice.copy = [",a,", "b,,"] :=
  split_intercalate (by decide) (by decide)

end LintRoster.Text
