import LintRoster.Proofs.Path.Place

/-!
# The steps of a child

A proper name below a path adds one step to the steps of the path, however the path is written. The
paths above such a child are therefore the child itself and the beginnings of its parent.
-/

namespace LintRoster

namespace Path

/-- A text has at least one piece. -/
theorem splitSlashes_ne_nil (chars : List Char) : splitSlashes chars ≠ [] := by
  cases chars with
  | nil => simp [splitSlashes]
  | cons c cs =>
      rw [splitSlashes]
      split
      · simp
      · split <;> simp

/-- A slash separates the pieces before it from those behind it. -/
theorem splitSlashes_append_slash (before after : List Char) :
    splitSlashes (before ++ '/' :: after) = splitSlashes before ++ splitSlashes after := by
  induction before with
  | nil => simp [splitSlashes]
  | cons c cs ih =>
      rw [List.cons_append, splitSlashes, splitSlashes, ih]
      split
      · simp
      · cases hpieces : splitSlashes cs with
        | nil => exact absurd hpieces (splitSlashes_ne_nil cs)
        | cons => rfl

/-- A text without a slash is one piece. -/
theorem splitSlashes_of_not_mem {chars : List Char} (h : '/' ∉ chars) :
    splitSlashes chars = [chars] := by
  induction chars with
  | nil => rfl
  | cons c cs ih =>
      obtain ⟨hc, hcs⟩ := not_or.mp (mt List.mem_cons.mpr h)
      have hslash : ¬ (c == '/') = true := by simpa using Ne.symm hc
      rw [splitSlashes, if_neg hslash, ih hcs]

/-- No piece of a text between slashes holds one. -/
theorem not_mem_of_mem_splitSlashes {chars piece : List Char} (h : piece ∈ splitSlashes chars) :
    '/' ∉ piece := by
  induction chars generalizing piece with
  | nil =>
      obtain rfl := List.mem_singleton.mp h
      exact List.not_mem_nil
  | cons c cs ih =>
      rw [splitSlashes] at h
      split at h
      · obtain rfl | h := List.mem_cons.mp h
        · exact List.not_mem_nil
        · exact ih h
      · next hc =>
          have hslash : '/' ≠ c := fun heq ↦ hc (beq_iff_eq.mpr heq.symm)
          cases hpieces : splitSlashes cs with
          | nil => exact absurd hpieces (splitSlashes_ne_nil cs)
          | cons first rest =>
              rw [hpieces] at h ih
              obtain rfl | h := List.mem_cons.mp h
              · exact List.not_mem_cons_of_ne_of_not_mem hslash (ih List.mem_cons_self)
              · exact ih (List.mem_cons_of_mem _ h)

/-- No piece of a path holds a slash. -/
theorem not_mem_of_mem_pieces {p : Path} {piece : String} (h : piece ∈ p.pieces) :
    '/' ∉ piece.toList := by
  obtain ⟨chars, hchars, rfl⟩ := List.mem_map.mp h
  rw [String.toList_ofList]
  exact not_mem_of_mem_splitSlashes hchars

/-- A name that is one step of a path: it has no slash, and is neither empty nor made of one or two
dots only. -/
structure IsStepName (name : String) : Prop where
  not_mem : '/' ∉ name.toList
  ne_empty : name ≠ ""
  ne_dot : name ≠ "."
  ne_dots : name ≠ ".."

/-- A name that is one step stands for that step. -/
theorem IsStepName.componentOf_eq {name : String} (h : IsStepName name) :
    componentOf name = some (.name name) := by
  simp [componentOf, h.ne_empty, h.ne_dot, h.ne_dots]

/-- A name that is one step does not begin with a slash. -/
theorem IsStepName.head?_ne {name : String} (h : IsStepName name) :
    name.toList.head? ≠ some '/' :=
  fun hhead ↦ h.not_mem (List.mem_of_head? hhead)

variable {p : Path} {name : String}

/-- The pieces of joined paths are those of the one and of the other, if that is relative. Only an
empty piece at the end of the first path is dropped. -/
theorem pieces_join {q : Path} (hq : q.isAbsolute = false) : ∃ front tail,
    p.pieces = front ++ tail ∧ (p.join q).pieces = front ++ q.pieces ∧
      ((tail = [] ∧ front ≠ []) ∨ tail = [""]) := by
  have htext := congrArg String.toList (text_join (p := p) hq)
  simp only [String.toList_append, gap] at htext
  rw [pieces, pieces, pieces, htext]
  split
  · next hlast =>
      -- The empty path is one empty piece, in the place of which the other pieces stand.
      have hempty : p.text.toList = [] := by simpa using hlast
      refine ⟨[], [""], ?_, ?_, Or.inr rfl⟩
      · simp [hempty, splitSlashes]
      · simp [hempty]
  · next hlast =>
      -- Behind a last slash is an empty piece, in the place of which the other pieces stand.
      obtain ⟨front, hfront⟩ := List.getLast?_eq_some_iff.mp hlast
      refine ⟨(splitSlashes front).map String.ofList, [""], ?_, ?_, Or.inr rfl⟩
      · rw [hfront, splitSlashes_append_slash, List.map_append]
        rfl
      · simp [hfront, splitSlashes_append_slash]
  · refine ⟨(splitSlashes p.text.toList).map String.ofList, [], by simp, ?_, Or.inl ⟨rfl, ?_⟩⟩
    · simp [splitSlashes_append_slash]
    · simpa using splitSlashes_ne_nil p.text.toList

/-- A name that is one step is one piece. -/
theorem IsStepName.pieces_eq (h : IsStepName name) : pieces ⟨name⟩ = [name] := by
  simp [pieces, splitSlashes_of_not_mem h.not_mem]

/-- The pieces of a child are those of its parent and the name. Only an empty piece at the end of
the parent is dropped. -/
theorem pieces_child (h : IsStepName name) : ∃ front tail,
    p.pieces = front ++ tail ∧ (p.child name).pieces = front ++ [name] ∧
      ((tail = [] ∧ front ≠ []) ∨ tail = [""]) := by
  rw [← h.pieces_eq]
  exact pieces_join (isAbsolute_name h.head?_ne)

/-- A relative path is put behind a name and a slash. -/
theorem join_name (h : IsStepName name) {q : Path} (hq : q.isAbsolute = false) :
    join ⟨name⟩ q = ⟨name ++ "/" ++ q.text⟩ := by
  have hgap : gap ⟨name⟩ = "/" := by
    unfold gap
    split
    · next hlast => exact absurd hlast (by simpa using h.ne_empty)
    · next hlast => exact absurd (List.mem_of_getLast? hlast) h.not_mem
    · rfl
  rw [← hgap]
  exact congrArg Path.mk (text_join hq)

/-- Names with slashes between them are a relative path. -/
theorem isAbsolute_names (h : IsStepName name) (names : List String) :
    isAbsolute ⟨"/".intercalate (name :: names)⟩ = false := by
  have hrelative := isAbsolute_name h.head?_ne
  cases names with
  | nil => rwa [String.intercalate_singleton]
  | cons other names =>
      rw [String.intercalate_cons_cons, String.append_assoc,
        isAbsolute_append (p := ⟨name⟩) h.ne_empty, hrelative]

/-- A child has the steps of its parent and one more. -/
theorem components_child (h : IsStepName name) :
    (p.child name).components = p.components ++ [.name name] := by
  obtain ⟨front, tail, hparent, hchild, htail⟩ := pieces_child (p := p) h
  have hsteps : p.pieces.filterMap componentOf = front.filterMap componentOf := by
    obtain ⟨rfl, -⟩ | rfl := htail <;> simp [hparent, componentOf]
  have hsteps' : (p.child name).pieces.filterMap componentOf =
      front.filterMap componentOf ++ [.name name] := by
    rw [hchild, List.filterMap_append]
    simp [h.componentOf_eq]
  have hdot : ((p.child name).pieces.head? == some ".") = (p.pieces.head? == some ".") := by
    rw [hparent, hchild]
    cases front with
    | nil =>
        obtain ⟨-, hne⟩ | rfl := htail
        · exact absurd rfl hne
        · simp [h.ne_dot]
    | cons => rfl
  simp only [components, isAbsolute_child p h.head?_ne, hsteps, hsteps', hdot]
  split
  · simp
  · split <;> simp

end Path

namespace FileSystem

/-- The paths above a path are made of its first steps. -/
theorem mem_ancestry {p q : Path} (h : q ∈ ancestry p) :
    q = p ∨ ∃ kept, kept ≠ [] ∧ kept <+: p.components.dropLast ∧ q = .ofComponents kept := by
  obtain rfl | hmem := List.mem_cons.mp h
  · exact Or.inl rfl
  · obtain ⟨i, -, hkept⟩ := List.mem_filterMap.mp hmem
    dsimp only at hkept
    split at hkept <;> cases hkept
    next hne =>
    refine Or.inr ⟨_, ?_, List.take_prefix _ _, rfl⟩
    intro hnil
    simp [hnil] at hne

/-- The paths above a child are the child and the beginnings of its parent. -/
theorem mem_ancestry_child {p q : Path} {name : String} (hname : Path.IsStepName name)
    (h : q ∈ ancestry (p.child name)) :
    q = p.child name ∨ ∃ kept, kept ≠ [] ∧ kept <+: p.components ∧ q = .ofComponents kept := by
  have hmem := mem_ancestry h
  rwa [Path.components_child hname, List.dropLast_concat] at hmem

end FileSystem

end LintRoster
