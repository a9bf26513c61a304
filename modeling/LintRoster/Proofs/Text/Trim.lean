import LintRoster.Text.Blank
import Mathlib.Data.List.Basic
import Mathlib.Data.List.TakeWhile

/-!
# Trimmed texts

A text is trimmed if something is left of it and neither end is blank. `trim_eq_iff` says what
trimming does without saying how: it gives the one trimmed text that stands between blank characters
in the text, and `trim_eq_empty_iff` says when there is none.
-/

namespace LintRoster.Text

/-- All characters are blank. -/
def AllBlank (cs : List Char) : Prop :=
  ∀ c ∈ cs, isBlank c = true

/-- Whether all characters are blank can be found out. -/
instance (cs : List Char) : Decidable (AllBlank cs) :=
  decidable_of_iff (cs.all isBlank) (by simp [AllBlank])

/-- The text is not empty, and neither its first nor its last character is blank. -/
structure IsTrimmed (s : String) : Prop where
  ne_empty : s ≠ ""
  head_not_blank : ∀ c, s.toList.head? = some c → isBlank c = false
  last_not_blank : ∀ c, s.toList.getLast? = some c → isBlank c = false

/-- The text consists of another one with blank characters around it. -/
def IsPadded (s inner : String) : Prop :=
  ∃ lead trail, AllBlank lead ∧ AllBlank trail ∧ s.toList = lead ++ inner.toList ++ trail

/-- Blank characters in front are left behind, and the first character after them stays. -/
theorem dropWhile_isBlank_append {lead cs : List Char} (hlead : AllBlank lead)
    (hcs : ∀ c, cs.head? = some c → isBlank c = false) :
    (lead ++ cs).dropWhile isBlank = cs := by
  rw [List.dropWhile_append_of_pos hlead]
  cases cs with
  | nil => rfl
  | cons c cs => simp [hcs c rfl]

/-- What is dropped from the front is blank. -/
theorem allBlank_takeWhile (cs : List Char) : AllBlank (cs.takeWhile isBlank) :=
  fun _ hc ↦ List.mem_takeWhile_imp hc

/-- What stays behind the blank characters in front does not begin with one. -/
theorem head_dropWhile_isBlank {cs : List Char} {c : Char}
    (h : (cs.dropWhile isBlank).head? = some c) : isBlank c = false := by
  simpa [h] using List.head?_dropWhile_not isBlank cs

/-- Reversed characters are blank if and only if the characters are. -/
theorem allBlank_reverse {cs : List Char} : AllBlank cs.reverse ↔ AllBlank cs := by
  simp [AllBlank]

/-- A text is what trimming leaves, with blank characters around it. -/
theorem isPadded_trim (s : String) : IsPadded s (trim s) := by
  let inner := s.toList.dropWhile isBlank
  refine ⟨s.toList.takeWhile isBlank, (inner.reverse.takeWhile isBlank).reverse,
    allBlank_takeWhile _, allBlank_reverse.mpr (allBlank_takeWhile _), ?_⟩
  have hinner : inner = trimEndChars inner ++ (inner.reverse.takeWhile isBlank).reverse := by
    rw [trimEndChars, ← List.reverse_append, List.takeWhile_append_dropWhile, List.reverse_reverse]
  rw [List.append_assoc, trim, String.toList_ofList, trimChars, trimStartChars, ← hinner,
    List.takeWhile_append_dropWhile]

/-- Trimming leaves nothing, or a trimmed text. -/
theorem isTrimmed_trim {s : String} (h : trim s ≠ "") : IsTrimmed (trim s) := by
  obtain ⟨lead, trail, -, -, hs⟩ := isPadded_trim s
  refine ⟨h, fun c hc ↦ ?_, fun c hc ↦ ?_⟩
  · -- The first character that is left is the first one behind the blanks in front.
    obtain ⟨dropped, hdropped⟩ : (trim s).toList <+: s.toList.dropWhile isBlank := by
      have hsuffix := List.dropWhile_suffix isBlank (l := (s.toList.dropWhile isBlank).reverse)
      rw [trim, String.toList_ofList, trimChars, trimStartChars, trimEndChars]
      simpa using List.reverse_prefix.mpr hsuffix
    have hhead : (s.toList.dropWhile isBlank).head? = some c := by
      rw [← hdropped, List.head?_append, hc, Option.some_or]
    exact head_dropWhile_isBlank hhead
  · rw [trim, String.toList_ofList, trimChars, trimEndChars, List.getLast?_reverse] at hc
    exact head_dropWhile_isBlank hc

/-- A trimmed text is what trimming leaves of it between blank characters. -/
theorem trim_of_isPadded {s inner : String} (hinner : IsTrimmed inner) (h : IsPadded s inner) :
    trim s = inner := by
  obtain ⟨lead, trail, hlead, htrail, hs⟩ := h
  have hne : inner.toList ≠ [] := by simpa using hinner.ne_empty
  have hstart : s.toList.dropWhile isBlank = inner.toList ++ trail := by
    rw [hs, List.append_assoc, dropWhile_isBlank_append hlead]
    intro c hc
    refine hinner.head_not_blank c ?_
    rwa [List.head?_append_of_ne_nil _ hne] at hc
  have hend : (inner.toList ++ trail).reverse.dropWhile isBlank = inner.toList.reverse := by
    rw [List.reverse_append, dropWhile_isBlank_append (allBlank_reverse.mpr htrail)]
    intro c hc
    exact hinner.last_not_blank c (by rwa [List.head?_reverse] at hc)
  rw [trim, trimChars, trimStartChars, trimEndChars, hstart, hend, List.reverse_reverse,
    String.ofList_toList]

/-- Trimming leaves a given text, which is trimmed, exactly if the text stands between blank
characters. -/
theorem trim_eq_iff {s inner : String} (hinner : IsTrimmed inner) :
    trim s = inner ↔ IsPadded s inner := by
  constructor
  · rintro rfl
    exact isPadded_trim s
  · exact trim_of_isPadded hinner

/-- Trimming leaves nothing exactly of blank characters. -/
theorem trim_eq_empty_iff {s : String} : trim s = "" ↔ AllBlank s.toList := by
  constructor
  · intro h
    obtain ⟨lead, trail, hlead, htrail, hs⟩ := isPadded_trim s
    rw [h, String.toList_empty, List.append_nil] at hs
    intro c hc
    rw [hs] at hc
    exact (List.mem_append.mp hc).elim (hlead c) (htrail c)
  · intro h
    have hstart : s.toList.dropWhile isBlank = [] := List.dropWhile_eq_nil_iff.mpr h
    rw [trim, trimChars, trimStartChars, trimEndChars, hstart]
    rfl

end LintRoster.Text
