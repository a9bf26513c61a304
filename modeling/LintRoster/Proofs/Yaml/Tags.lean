import LintRoster.Proofs.Text.Trim
import LintRoster.Roster.Extraction

/-!
# Tags and the texts of values

`Value.bare` is a value without any of its tags, at whatever depth. What a value declares depends on
its outermost shape without tags and, for a sequence, on the shapes of its items. The shapes that
matter are named here: `IsCollection` is a value that has no text of its own, and `IsBlank` one whose
text holds no name.
-/

namespace LintRoster.Yaml

namespace Number

/-- A digit is not blank. -/
theorem isBlank_of_isDigit {c : Char} (h : c.isDigit = true) : Text.isBlank c = false := by
  obtain ⟨hlow, hhigh⟩ : 48 ≤ c.toNat ∧ c.toNat ≤ 57 := by
    simpa [Char.isDigit, UInt32.le_iff_toNat_le] using h
  simp only [Text.isBlank, Bool.or_eq_false_iff, Bool.and_eq_false_iff, decide_eq_false_iff_not,
    beq_eq_false_iff_ne]
  omega

/-- The text of a natural number is not blank. -/
theorem exists_not_blank_repr (n : Nat) : ∃ c ∈ n.repr.toList, Text.isBlank c = false := by
  obtain ⟨c, hc⟩ := List.exists_mem_of_ne_nil _ (Nat.toDigits_ne_nil (n := n) (b := 10))
  refine ⟨c, by rwa [Nat.toList_repr], isBlank_of_isDigit ?_⟩
  exact Nat.isDigit_of_mem_toDigits (by omega) (by omega) hc

/-- The text of a magnitude holds a point or an exponent. -/
theorem exists_not_blank_magnitude (m : Magnitude) :
    ∃ c ∈ (layout.magnitude m).toList, Text.isBlank c = false := by
  have hpoint : Text.isBlank '.' = false := by decide
  have hexponent : Text.isBlank 'e' = false := by decide
  unfold NumberLayout.magnitude
  split
  · exact ⟨'.', by decide, hpoint⟩
  · unfold NumberLayout.fraction
    simp only [String.toList_ofList]
    split
    · exact ⟨'.', by simp, hpoint⟩
    split
    · exact ⟨'.', by simp, hpoint⟩
    split
    · exact ⟨'.', by simp, hpoint⟩
    · exact ⟨'e', by simp, hexponent⟩

/-- The text of a number is not blank. -/
theorem not_allBlank_text (n : Number) : ¬ Text.AllBlank n.text.toList := by
  suffices h : ∃ c ∈ n.text.toList, Text.isBlank c = false by
    obtain ⟨c, hc, hblank⟩ := h
    intro hall
    simp [hall c hc] at hblank
  match n with
  | .int (.ofNat n) => exact exists_not_blank_repr n
  | .int (.negSucc n) =>
      obtain ⟨c, hc, hblank⟩ := exists_not_blank_repr n.succ
      refine ⟨c, ?_, hblank⟩
      change c ∈ ("-" ++ n.succ.repr).toList
      exact String.toList_append ▸ List.mem_append_right _ hc
  | .float .nan => exact ⟨'.', by decide, by decide⟩
  | .float (.infinite negative) => cases negative <;> exact ⟨'.', by decide, by decide⟩
  | .float (.finite negative m) =>
      obtain ⟨c, hc, hblank⟩ := exists_not_blank_magnitude m
      exact ⟨c, by simp [text, hc], hblank⟩

end Number

namespace Value

mutual

/-- The value without its tags and without those of all that it holds. -/
def bare : Value → Value
  | .null => .null
  | .bool b => .bool b
  | .number n => .number n
  | .string s => .string s
  | .seq items => .seq (bareItems items)
  | .map entries => .map (bareEntries entries)
  | .tagged _ v => v.bare

/-- The items of a sequence without tags. -/
def bareItems : List Value → List Value
  | [] => []
  | v :: vs => v.bare :: bareItems vs

/-- The entries of a mapping without tags. -/
def bareEntries : List (Value × Value) → List (Value × Value)
  | [] => []
  | (k, v) :: rest => (k.bare, v.bare) :: bareEntries rest

end

/-- The value is a sequence or a mapping, under any tags. -/
def IsCollection (v : Value) : Prop :=
  (∃ items, v.untagged = .seq items) ∨ ∃ entries, v.untagged = .map entries

/-- The value is nothing or a text of blank characters, under any tags. -/
def IsBlank (v : Value) : Prop :=
  v.untagged = .null ∨ ∃ s, v.untagged = .string s ∧ Text.AllBlank s.toList

/-- No tag is left around a value without tags. -/
theorem untagged_ne_tagged (tag : String) (w : Value) : ∀ v : Value, v.untagged ≠ .tagged tag w
  | .tagged _ v => untagged_ne_tagged tag w v
  | .null | .bool _ | .number _ | .string _ | .seq _ | .map _ => by simp [untagged]

/-- A value and the value without its outer tags have the same text. -/
theorem scalarText?_untagged : ∀ v : Value, v.untagged.scalarText? = v.scalarText?
  | .tagged _ v => scalarText?_untagged v
  | .null | .bool _ | .number _ | .string _ | .seq _ | .map _ => rfl

/-- A value and the value without its outer tags declare the same names. -/
theorem names?_untagged : ∀ v : Value, v.untagged.names? = v.names?
  | .tagged _ v => names?_untagged v
  | .null | .bool _ | .number _ | .string _ | .seq _ | .map _ => rfl

/-- A value has no text of its own exactly if it is a collection. -/
theorem scalarText?_eq_none_iff {v : Value} : v.scalarText? = none ↔ v.IsCollection := by
  rw [← scalarText?_untagged, IsCollection]
  cases h : v.untagged with
  | tagged tag w => exact absurd h (untagged_ne_tagged tag w v)
  | null | bool | number | string | seq | map => simp [scalarText?]

/-- A value is blank exactly if its text is. Truth values and numbers are not. -/
theorem isBlank_iff {v : Value} :
    v.IsBlank ↔ ∃ text, v.scalarText? = some text ∧ Text.AllBlank text.toList := by
  rw [← scalarText?_untagged, IsBlank]
  cases h : v.untagged with
  | tagged tag w => exact absurd h (untagged_ne_tagged tag w v)
  | null => simp [scalarText?, Text.AllBlank]
  | bool b => cases b <;> simp [scalarText?, Text.AllBlank, Text.isBlank]
  | number n => simpa [scalarText?] using n.not_allBlank_text
  | string | seq | map => simp [scalarText?]

/-- The texts of items are those of the items, one for each, and every item has one. -/
theorem itemTexts?_eq_some_iff {items : List Value} {texts : List String} :
    itemTexts? items = some texts ↔ items.map scalarText? = texts.map some := by
  induction items generalizing texts with
  | nil => cases texts <;> simp [itemTexts?]
  | cons item items ih =>
      cases texts with
      | nil => cases h : item.scalarText? <;> simp [itemTexts?, h]
      | cons text texts =>
          cases h : item.scalarText? with
          | none => simp [itemTexts?, h]
          | some other => simp [itemTexts?, h, ih, and_comm]

/-- Items have texts unless one of them is a collection. -/
theorem itemTexts?_eq_none_iff {items : List Value} :
    itemTexts? items = none ↔ ∃ item ∈ items, item.IsCollection := by
  induction items with
  | nil => simp [itemTexts?]
  | cons item items ih =>
      rw [List.exists_mem_cons_iff, ← scalarText?_eq_none_iff, ← ih]
      cases h : item.scalarText? <;> simp [itemTexts?, h]

/-- A value without tags has the text of the value. -/
theorem scalarText?_bare : ∀ v : Value, v.bare.scalarText? = v.scalarText?
  | .tagged _ v => scalarText?_bare v
  | .null | .bool _ | .number _ | .string _ | .seq _ | .map _ => by simp only [bare, scalarText?]

/-- Items without tags have the texts of the items. -/
theorem itemTexts?_bareItems (items : List Value) :
    itemTexts? (bareItems items) = itemTexts? items := by
  induction items with
  | nil => rfl
  | cons item items ih => rw [bareItems, itemTexts?, itemTexts?, scalarText?_bare, ih]

/-- A value without tags declares the names of the value. -/
theorem names?_bare : ∀ v : Value, v.bare.names? = v.names?
  | .tagged _ v => names?_bare v
  | .seq items => by rw [bare, names?, names?, itemTexts?_bareItems]
  | .null | .bool _ | .number _ | .string _ | .map _ => by simp only [bare, names?]

/-- A value without tags is nothing exactly if the value is. -/
theorem isNull_bare : ∀ v : Value, v.bare.isNull = v.isNull
  | .tagged _ v => isNull_bare v
  | .null | .bool _ | .number _ | .string _ | .seq _ | .map _ => by
      simp only [bare, isNull, untagged]

end Value

end LintRoster.Yaml
