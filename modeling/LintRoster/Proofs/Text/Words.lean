import LintRoster.Proofs.Text.Trim

/-!
# Words of joined texts

A text is unspaced if it holds no blank character, and a word if it is also not empty. The words of
a text are words, and texts that are joined by single spaces are given back by the words of the
result exactly if each of them is a word, which is `words_intercalate_iff`. `Spells` says which words
a text spells without cutting it, and `spells_iff` that these are its words.
-/

namespace LintRoster.Text

/-- No character of the text is blank. -/
def Unspaced (s : String) : Prop :=
  ∀ c ∈ s.toList, isBlank c = false

/-- The text is not empty, and no character of it is blank. -/
structure IsWord (s : String) : Prop where
  ne_empty : s ≠ ""
  unspaced : Unspaced s

/-- A word is trimmed. -/
theorem IsWord.isTrimmed {s : String} (h : IsWord s) : IsTrimmed s :=
  ⟨h.ne_empty, fun c hc ↦ h.unspaced c (List.mem_of_mem_head? hc),
    fun c hc ↦ h.unspaced c (List.mem_of_mem_getLast? hc)⟩

/-- Whether a text is unspaced can be found out. -/
instance (s : String) : Decidable (Unspaced s) :=
  decidable_of_iff (s.toList.all fun c ↦ !isBlank c) (by simp [Unspaced])

/-- Whether a text is a word can be found out. -/
instance (s : String) : Decidable (IsWord s) :=
  decidable_of_iff (s ≠ "" ∧ Unspaced s) ⟨fun h ↦ ⟨h.1, h.2⟩, fun h ↦ ⟨h.ne_empty, h.unspaced⟩⟩

/-- A finished word is gathered if there is one, and the words after it stay. -/
theorem mem_closeWord {word other : List Char} {after : List (List Char)} :
    other ∈ closeWord word after ↔ (word ≠ [] ∧ other = word.reverse) ∨ other ∈ after := by
  unfold closeWord
  cases word <;> simp

/-- The words after some characters of a first word are not empty and hold no blank character. -/
theorem mem_wordsAfter {cs : List Char} : ∀ {word other : List Char},
    (∀ c ∈ word, isBlank c = false) → other ∈ wordsAfter word cs →
      other ≠ [] ∧ ∀ c ∈ other, isBlank c = false := by
  -- The invariant is that no character of the word that is being read is blank.
  induction cs with
  | nil =>
      intro word other hword hother
      rw [wordsAfter, mem_closeWord] at hother
      obtain ⟨hne, rfl⟩ | hnil := hother
      · exact ⟨by simpa using hne, fun c hc ↦ hword c (List.mem_reverse.mp hc)⟩
      · cases hnil
  | cons d cs ih =>
      intro word other hword hother
      rw [wordsAfter] at hother
      split at hother
      · rw [mem_closeWord] at hother
        obtain ⟨hne, rfl⟩ | hother := hother
        · exact ⟨by simpa using hne, fun c hc ↦ hword c (List.mem_reverse.mp hc)⟩
        · exact ih (by simp) hother
      · next hd =>
          refine ih (fun c hc ↦ ?_) hother
          obtain rfl | hc := List.mem_cons.mp hc
          · simpa using hd
          · exact hword c hc

/-- Each word of a text is a word. -/
theorem isWord_of_mem_words {s word : String} (h : word ∈ words s) : IsWord word := by
  obtain ⟨cs, hcs, rfl⟩ := List.mem_map.mp h
  obtain ⟨hne, hunspaced⟩ := mem_wordsAfter (by simp) hcs
  exact ⟨by simpa using hne, by simpa [Unspaced] using hunspaced⟩

/-- Characters that are not blank are gathered into the word that is being read. -/
theorem wordsAfter_append {cs : List Char} (h : ∀ c ∈ cs, isBlank c = false) (rest : List Char) :
    ∀ word, wordsAfter word (cs ++ rest) = wordsAfter (cs.reverse ++ word) rest := by
  induction cs with
  | nil =>
      intro word
      rfl
  | cons c cs ih =>
      intro word
      have hc := h c List.mem_cons_self
      rw [List.cons_append, wordsAfter, hc, if_neg Bool.false_ne_true,
        ih fun d hd ↦ h d (List.mem_cons_of_mem c hd)]
      simp

/-- A word alone is its only word. -/
theorem words_word {s : String} (h : IsWord s) : words s = [s] := by
  have hgather := wordsAfter_append h.unspaced [] []
  rw [List.append_nil] at hgather
  simp [words, wordsChars, hgather, wordsAfter, closeWord, h.ne_empty]

/-- A word and a space in front of a text add the word to the words. -/
theorem words_word_space {s : String} (h : IsWord s) (rest : String) :
    words (s ++ " " ++ rest) = s :: words rest := by
  have hspace : isBlank ' ' = true := by decide
  have hgather := wordsAfter_append h.unspaced (' ' :: rest.toList) []
  simp [words, wordsChars, hgather, wordsAfter, closeWord, h.ne_empty, hspace]

/-- Words that are joined by single spaces are the words of the result. -/
theorem words_intercalate {names : List String} (h : ∀ name ∈ names, IsWord name) :
    words (" ".intercalate names) = names := by
  induction names with
  | nil => decide
  | cons name names ih =>
      have hname := h name List.mem_cons_self
      have hnames := ih fun other hother ↦ h other (List.mem_cons_of_mem name hother)
      cases names with
      | nil => rw [String.intercalate_singleton, words_word hname]
      | cons other names =>
          rw [String.intercalate_cons_cons, words_word_space hname, hnames]

/-- Texts that are joined by single spaces are the words of the result exactly if each of them is a
word. -/
theorem words_intercalate_iff {names : List String} :
    words (" ".intercalate names) = names ↔ ∀ name ∈ names, IsWord name := by
  constructor
  · intro h name hname
    exact isWord_of_mem_words (h ▸ hname)
  · exact words_intercalate

/-- `Spells cs names` says the characters are the given words, in order, with blank characters
between each two and around them. -/
inductive Spells : List Char → List String → Prop where
  | blank (cs) : AllBlank cs → Spells cs []
  | word (lead word rest names) :
      AllBlank lead → IsWord word → (∀ c, rest.head? = some c → isBlank c = true) →
      Spells rest names → Spells (lead ++ word.toList ++ rest) (word :: names)

/-- A blank character in front changes no word. -/
theorem Spells.cons_blank {c : Char} {cs : List Char} {names : List String} (hc : isBlank c = true)
    (h : Spells cs names) : Spells (c :: cs) names := by
  cases h with
  | blank _ hcs => exact .blank _ (List.forall_mem_cons.mpr ⟨hc, hcs⟩)
  | word lead word rest names hlead hword hend hrest =>
      exact .word (c :: lead) word rest names (List.forall_mem_cons.mpr ⟨hc, hlead⟩) hword hend
        hrest

/-- Blank characters in front are no part of a word. -/
theorem wordsAfter_blank {lead : List Char} (h : AllBlank lead) (cs : List Char) :
    wordsAfter [] (lead ++ cs) = wordsAfter [] cs := by
  induction lead with
  | nil => rfl
  | cons c lead ih =>
      obtain ⟨hc, hlead⟩ := List.forall_mem_cons.mp h
      rw [List.cons_append, wordsAfter, hc, if_pos rfl, ih hlead]
      rfl

/-- A word that is being read ends where a blank character or the end of the text follows. -/
theorem wordsAfter_end {word rest : List Char} (hword : word ≠ [])
    (hend : ∀ c, rest.head? = some c → isBlank c = true) :
    wordsAfter word rest = word.reverse :: wordsAfter [] rest := by
  cases rest with
  | nil => simp [wordsAfter, closeWord, hword]
  | cons c rest => simp [wordsAfter, closeWord, hword, hend c rfl]

/-- The words that a text spells are its words. -/
theorem wordsChars_of_spells {cs : List Char} {names : List String} (h : Spells cs names) :
    (wordsChars cs).map String.ofList = names := by
  induction h with
  | blank cs hcs =>
      rw [wordsChars, ← List.append_nil cs, wordsAfter_blank hcs]
      rfl
  | word lead word rest names hlead hword hend _ ih =>
      have hne : word.toList.reverse ++ [] ≠ [] := by simpa using hword.ne_empty
      rw [wordsChars, List.append_assoc, wordsAfter_blank hlead,
        wordsAfter_append hword.unspaced, wordsAfter_end hne hend, List.map_cons, ← wordsChars, ih]
      simp

/-- A word that is finished stands in front of the words behind it. -/
theorem spells_closeWord {word rest : List Char} {names : List (List Char)}
    (hword : ∀ c ∈ word, isBlank c = false) (hend : ∀ c, rest.head? = some c → isBlank c = true)
    (hrest : Spells rest (names.map String.ofList)) :
    Spells (word.reverse ++ rest) ((closeWord word names).map String.ofList) := by
  by_cases hempty : word = []
  · simpa [closeWord, hempty] using hrest
  · have hisword : IsWord (.ofList word.reverse) :=
      ⟨by simpa using hempty, by simpa [Unspaced] using hword⟩
    have hspells := Spells.word [] _ rest _ (by simp [AllBlank]) hisword hend hrest
    rw [String.toList_ofList, List.nil_append] at hspells
    rwa [closeWord, if_neg (mt List.isEmpty_iff.mp hempty), List.map_cons]

/-- Characters behind a word that is being read spell the words that are read. -/
theorem spells_wordsAfter (cs : List Char) : ∀ word : List Char,
    (∀ c ∈ word, isBlank c = false) →
      Spells (word.reverse ++ cs) ((wordsAfter word cs).map String.ofList) := by
  -- The invariant is that the word that is being read holds no blank character.
  induction cs with
  | nil =>
      intro word hword
      exact spells_closeWord hword (by simp) (.blank [] (by simp [AllBlank]))
  | cons c cs ih =>
      intro word hword
      rw [wordsAfter]
      split
      · next hc =>
          refine spells_closeWord hword ?_ ((ih [] (by simp)).cons_blank hc)
          rintro _ ⟨⟩
          exact hc
      · next hc =>
          have hnext := ih (c :: word) (List.forall_mem_cons.mpr ⟨by simpa using hc, hword⟩)
          simpa using hnext

/-- The words of a text are those that it spells. -/
theorem spells_iff {s : String} {names : List String} :
    Spells s.toList names ↔ words s = names := by
  constructor
  · exact wordsChars_of_spells
  · rintro rfl
    exact spells_wordsAfter s.toList [] (by simp)

/-- A text has no words exactly if all its characters are blank. -/
theorem words_eq_nil_iff {s : String} : words s = [] ↔ AllBlank s.toList := by
  rw [← spells_iff]
  generalize s.toList = cs
  constructor
  · rintro (⟨_, hblank⟩ | _)
    exact hblank
  · exact .blank _

end LintRoster.Text
