/-!
# Sets of names

A set of names is a strictly increasing list, in the order of the bytes of the names. Two sets with
the same members are therefore equal, and the list is the order in which a set is shown.
-/

namespace LintRoster

/-- A finite set of names, in increasing order. -/
@[ext]
structure NameSet where
  toList : List String
  sorted : toList.Pairwise (· < ·)
deriving DecidableEq

namespace NameSet

/-- The set without members. -/
def empty : NameSet :=
  ⟨[], List.Pairwise.nil⟩

instance : Inhabited NameSet := ⟨empty⟩

/-- Puts a name into an increasing list, unless it is there. -/
def insertIntoList (name : String) : List String → List String
  | [] => [name]
  | other :: rest =>
    if name < other then name :: other :: rest
    else if other < name then other :: insertIntoList name rest
    else other :: rest

/-- Two names of which neither is before the other are the same. -/
theorem eq_of_not_lt {a b : String} (hab : ¬ a < b) (hba : ¬ b < a) : a = b :=
  String.le_antisymm (String.not_lt.mp hba) (String.not_lt.mp hab)

/-- The members after an insertion. -/
theorem mem_insertIntoList {name other : String} {names : List String} :
    other ∈ insertIntoList name names ↔ other = name ∨ other ∈ names := by
  induction names with
  | nil => simp [insertIntoList]
  | cons head rest ih =>
    unfold insertIntoList
    split
    · simp
    · split
      · simp only [List.mem_cons, ih]
        exact or_left_comm
      · next hlt hgt =>
        simp [eq_of_not_lt hlt hgt]

/-- An insertion keeps the order. -/
theorem sorted_insertIntoList {name : String} {names : List String}
    (h : names.Pairwise (· < ·)) : (insertIntoList name names).Pairwise (· < ·) := by
  induction names with
  | nil => simp [insertIntoList]
  | cons head rest ih =>
    obtain ⟨hhead, hrest⟩ := List.pairwise_cons.mp h
    unfold insertIntoList
    split
    · next hlt =>
      refine List.pairwise_cons.mpr ⟨fun other hother => ?_, h⟩
      rcases List.mem_cons.mp hother with rfl | hmem
      · exact hlt
      · exact String.lt_trans hlt (hhead other hmem)
    · split
      · next hgt =>
        refine List.pairwise_cons.mpr ⟨fun other hother => ?_, ih hrest⟩
        rcases mem_insertIntoList.mp hother with rfl | hmem
        · exact hgt
        · exact hhead other hmem
      · exact h

/-- The set with one more name. -/
def insert (s : NameSet) (name : String) : NameSet :=
  ⟨insertIntoList name s.toList, sorted_insertIntoList s.sorted⟩

/-- The set of the names in a list. -/
def ofList (names : List String) : NameSet :=
  names.foldl insert empty

/-- The set without one name. -/
def erase (s : NameSet) (name : String) : NameSet :=
  ⟨s.toList.filter (· != name), s.sorted.filter _⟩

/-- Whether a name is in the set. -/
def contains (s : NameSet) (name : String) : Bool :=
  s.toList.contains name

/-- How many names are in the set. -/
def size (s : NameSet) : Nat :=
  s.toList.length

/-- Whether the set has no members. -/
def isEmpty (s : NameSet) : Bool :=
  s.toList.isEmpty

/-- The members after an insertion are the old ones and the new one. -/
@[simp]
theorem mem_toList_insert {s : NameSet} {name other : String} :
    other ∈ (s.insert name).toList ↔ other = name ∨ other ∈ s.toList :=
  mem_insertIntoList

/-- The members after a removal are the other ones. -/
@[simp]
theorem mem_toList_erase {s : NameSet} {name other : String} :
    other ∈ (s.erase name).toList ↔ other ∈ s.toList ∧ other ≠ name := by
  simp [erase]

end NameSet

end LintRoster
