import LintRoster.NameSet

/-!
# Maps from names

A map from names is a list of entries whose names are strictly increasing, in the order of their
bytes. A later insertion under the same name replaces the earlier one.
-/

namespace LintRoster

/-- A finite map from names to values, in the order of the names. -/
@[ext]
structure NameMap (α : Type) where
  toList : List (String × α)
  sorted : toList.Pairwise fun a b => a.1 < b.1
deriving DecidableEq

namespace NameMap

variable {α β : Type}

/-- The map without entries. -/
def empty : NameMap α :=
  ⟨[], List.Pairwise.nil⟩

instance : Inhabited (NameMap α) := ⟨empty⟩

/-- Puts an entry into an increasing list, in the place of one with the same name. -/
def insertIntoList (name : String) (value : α) : List (String × α) → List (String × α)
  | [] => [(name, value)]
  | other :: rest =>
    if name < other.1 then (name, value) :: other :: rest
    else if other.1 < name then other :: insertIntoList name value rest
    else (name, value) :: rest

/-- An entry after an insertion is the new one or an old one. -/
theorem mem_insertIntoList {name : String} {value : α} {entry : String × α}
    {entries : List (String × α)} (h : entry ∈ insertIntoList name value entries) :
    entry = (name, value) ∨ entry ∈ entries := by
  induction entries with
  | nil => simpa [insertIntoList] using h
  | cons head rest ih =>
    unfold insertIntoList at h
    split at h
    · simpa using h
    · split at h
      · rcases List.mem_cons.mp h with rfl | hmem
        · simp
        · exact (ih hmem).imp_right (List.mem_cons_of_mem _)
      · rcases List.mem_cons.mp h with rfl | hmem
        · simp
        · exact .inr (List.mem_cons_of_mem _ hmem)

/-- An insertion keeps the order. -/
theorem sorted_insertIntoList {name : String} {value : α} {entries : List (String × α)}
    (h : entries.Pairwise fun a b => a.1 < b.1) :
    (insertIntoList name value entries).Pairwise fun a b => a.1 < b.1 := by
  induction entries with
  | nil => simp [insertIntoList]
  | cons head rest ih =>
    obtain ⟨hhead, hrest⟩ := List.pairwise_cons.mp h
    unfold insertIntoList
    split
    · next hlt =>
      refine List.pairwise_cons.mpr ⟨fun other hother => ?_, h⟩
      rcases List.mem_cons.mp hother with rfl | hmem
      · exact hlt
      · exact String.lt_trans hlt (hhead other hmem)
    · split
      · next hgt =>
        refine List.pairwise_cons.mpr ⟨fun other hother => ?_, ih hrest⟩
        rcases mem_insertIntoList hother with rfl | hmem
        · exact hgt
        · exact hhead other hmem
      · next hlt hgt =>
        rw [NameSet.eq_of_not_lt hlt hgt]
        exact List.pairwise_cons.mpr ⟨hhead, hrest⟩

/-- The map with an entry, which replaces one with the same name. -/
def insert (m : NameMap α) (name : String) (value : α) : NameMap α :=
  ⟨insertIntoList name value m.toList, sorted_insertIntoList m.sorted⟩

/-- The map of the entries in a list. Of two entries with one name the later one counts. -/
def ofList (entries : List (String × α)) : NameMap α :=
  entries.foldl (fun m entry => m.insert entry.1 entry.2) empty

/-- The value under a name. -/
def get? (m : NameMap α) (name : String) : Option α :=
  (m.toList.find? fun entry => entry.1 == name).map Prod.snd

end NameMap

end LintRoster
