import LintRoster.Proofs.Text.Words

/-!
# Layouts of words

A layout says how words may stand in a text: which blank characters stand in front of the first, how
many of which kind between each two neighbours, and which behind the last. `exists_layout_iff` says
that the words of a text are given words exactly if the text is a layout of them.
-/

namespace LintRoster.Text

/-- Words and the gaps between them, in turn. -/
def alternate : List String → List (List Char) → List Char
  | [], _ => []
  | name :: _, [] => name.toList
  | name :: names, gap :: gaps => name.toList ++ gap ++ alternate names gaps

/-- The blank characters around words and between each two neighbours, of which there are some. -/
structure Layout (names : List String) where
  lead : List Char
  gaps : List (List Char)
  trail : List Char
  blank_lead : AllBlank lead
  blank_trail : AllBlank trail
  blank_gap : ∀ gap ∈ gaps, AllBlank gap
  gap_ne_nil : ∀ gap ∈ gaps, gap ≠ []
  length_gaps : gaps.length + 1 = names.length

namespace Layout

variable {names : List String}

/-- The characters of a layout. -/
def chars (l : Layout names) : List Char :=
  l.lead ++ alternate names l.gaps ++ l.trail

/-- The text of a layout. -/
def text (l : Layout names) : String :=
  .ofList l.chars

end Layout

/-- Words with gaps between them spell the words, whatever blanks stand around them. -/
theorem spells_alternate {names : List String} {lead trail : List Char} {gaps : List (List Char)}
    (hwords : ∀ name ∈ names, IsWord name) (hlead : AllBlank lead) (htrail : AllBlank trail)
    (hblank : ∀ gap ∈ gaps, AllBlank gap) (hne : ∀ gap ∈ gaps, gap ≠ [])
    (hlength : gaps.length + 1 = names.length) :
    Spells (lead ++ alternate names gaps ++ trail) names := by
  -- Each gap is what stands in front of the words behind it, so the blanks in front are general.
  induction gaps generalizing names lead with
  | nil =>
      obtain ⟨name, rfl⟩ := List.length_eq_one_iff.mp hlength.symm
      refine .word lead name trail [] hlead (hwords name List.mem_cons_self) ?_ (.blank _ htrail)
      exact fun c hc ↦ htrail c (List.mem_of_mem_head? hc)
  | cons gap gaps ih =>
      cases names with
      | nil => cases hlength
      | cons name names =>
          obtain ⟨hname, hnames⟩ := List.forall_mem_cons.mp hwords
          obtain ⟨hgapblank, hgapsblank⟩ := List.forall_mem_cons.mp hblank
          obtain ⟨hgapne, hgapsne⟩ := List.forall_mem_cons.mp hne
          have hrest := ih hnames hgapblank hgapsblank hgapsne (Nat.succ.inj hlength)
          have hend : ∀ c, (gap ++ alternate names gaps ++ trail).head? = some c →
              isBlank c = true := by
            intro c hc
            rw [List.append_assoc, List.head?_append_of_ne_nil _ hgapne] at hc
            exact hgapblank c (List.mem_of_mem_head? hc)
          have hspells := Spells.word lead name _ names hlead hname hend hrest
          simpa only [alternate, List.append_assoc] using hspells

/-- A layout of words spells them. -/
theorem Layout.spells {names : List String} (l : Layout names)
    (hwords : ∀ name ∈ names, IsWord name) : Spells l.chars names :=
  spells_alternate hwords l.blank_lead l.blank_trail l.blank_gap l.gap_ne_nil l.length_gaps

/-- Words with gaps between them begin with the first word. -/
theorem head?_alternate {name : String} (hname : name ≠ "") (names : List String)
    (gaps : List (List Char)) :
    (alternate (name :: names) gaps).head? = name.toList.head? := by
  have hne : name.toList ≠ [] := by simpa using hname
  cases gaps with
  | nil => rfl
  | cons gap gaps =>
      rw [alternate, List.append_assoc, List.head?_append_of_ne_nil _ hne]

/-- A layout that begins with a blank character has some in front. -/
theorem Layout.lead_ne_nil {name : String} {names : List String} (l : Layout (name :: names))
    (hname : IsWord name) (h : ∀ c, l.chars.head? = some c → isBlank c = true) : l.lead ≠ [] := by
  intro hlead
  obtain ⟨c, hc⟩ := List.exists_mem_of_ne_nil name.toList (by simpa using hname.ne_empty)
  cases hhead : name.toList.head? with
  | none => simp [List.head?_eq_none_iff.mp hhead] at hc
  | some d =>
      have halternate : (alternate (name :: names) l.gaps).head? = some d := by
        rw [head?_alternate hname.ne_empty, hhead]
      have hchars : l.chars.head? = some d := by
        rw [chars, hlead, List.nil_append, List.head?_append, halternate, Option.some_or]
      have hblank := h d hchars
      rw [hname.unspaced d (List.mem_of_mem_head? hhead)] at hblank
      cases hblank

/-- A layout with a word and blanks in front of it is a layout again. -/
def Layout.push {name : String} {names : List String} (l : Layout (name :: names))
    (hl : l.lead ≠ []) (lead : List Char) (hlead : AllBlank lead) (word : String) :
    Layout (word :: name :: names) where
  lead := lead
  gaps := l.lead :: l.gaps
  trail := l.trail
  blank_lead := hlead
  blank_trail := l.blank_trail
  blank_gap := List.forall_mem_cons.mpr ⟨l.blank_lead, l.blank_gap⟩
  gap_ne_nil := List.forall_mem_cons.mpr ⟨hl, l.gap_ne_nil⟩
  length_gaps := congrArg Nat.succ l.length_gaps

/-- Characters that spell words are a layout of them. -/
theorem Spells.exists_layout {cs : List Char} {names : List String} (h : Spells cs names)
    (hne : names ≠ []) : ∃ l : Layout names, l.chars = cs := by
  induction h with
  | blank => exact absurd rfl hne
  | word lead word rest names hlead hword hend hrest ih =>
      cases hrest with
      | blank _ hblank => exact ⟨⟨lead, [], rest, hlead, hblank, by simp, by simp, rfl⟩, rfl⟩
      | word lead' word' rest' names' _ hword' _ _ =>
          obtain ⟨l, hl⟩ := ih (List.cons_ne_nil _ _)
          have hgap : l.lead ≠ [] := l.lead_ne_nil hword' (hl.symm ▸ hend)
          refine ⟨l.push hgap lead hlead word, ?_⟩
          rw [← hl]
          simp only [Layout.chars, Layout.push, alternate, List.append_assoc]

/-- The words of a text are given words exactly if the text is a layout of them. -/
theorem exists_layout_iff {s : String} {names : List String} (hne : names ≠ [])
    (hwords : ∀ name ∈ names, IsWord name) :
    (∃ l : Layout names, l.text = s) ↔ words s = names := by
  rw [← spells_iff]
  constructor
  · rintro ⟨l, rfl⟩
    rw [Layout.text, String.toList_ofList]
    exact l.spells hwords
  · intro h
    obtain ⟨l, hl⟩ := h.exists_layout hne
    exact ⟨l, by rw [Layout.text, hl, String.ofList_toList]⟩

end LintRoster.Text
