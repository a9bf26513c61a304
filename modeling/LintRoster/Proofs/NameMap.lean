import LintRoster.NameMap
import Mathlib.Data.List.Pairwise
import Mathlib.Data.List.Perm.Basic

/-!
# Maps from the lists of their entries

The list of a map is one of the lists that the map can be built from. Any other order of its entries
gives the same map, which is `ofList_of_perm`: the map keeps an order of its own. What an insertion
changes is the value under its name, and it leaves those under other names alone.
-/

namespace LintRoster.NameMap

variable {α : Type}

/-- The entry that is found under the name of an insertion is the inserted one. -/
theorem find?_insertIntoList_self {name : String} {value : α} {entries : List (String × α)} :
    (insertIntoList name value entries).find? (fun entry ↦ entry.1 == name) =
      some (name, value) := by
  induction entries with
  | nil => simp [insertIntoList]
  | cons entry entries ih =>
      unfold insertIntoList
      split
      · simp
      split
      · next hlt =>
          have hne : entry.1 ≠ name := fun heq ↦ String.lt_irrefl _ (heq ▸ hlt)
          rwa [List.find?_cons_of_neg (by simpa using hne)]
      · simp

/-- The entry that is found under any other name stays the same. -/
theorem find?_insertIntoList_other {name other : String} {value : α} (h : other ≠ name)
    {entries : List (String × α)} :
    (insertIntoList name value entries).find? (fun entry ↦ entry.1 == other) =
      entries.find? fun entry ↦ entry.1 == other := by
  have hskip : (name == other) = false := by simpa using h.symm
  induction entries with
  | nil => simp [insertIntoList, hskip]
  | cons entry entries ih =>
      unfold insertIntoList
      split
      · simp [hskip]
      split
      · rw [List.find?_cons, List.find?_cons, ih]
      · next hlt hgt =>
          -- The entry that is replaced has the name of the insertion.
          have hentry : name = entry.1 := NameSet.eq_of_not_lt hlt hgt
          simp [← hentry, hskip]

/-- The value under the name of an insertion is the inserted one. -/
theorem get?_insert_self {m : NameMap α} {name : String} {value : α} :
    (m.insert name value).get? name = some value := by
  simp only [get?, insert, find?_insertIntoList_self, Option.map_some]

/-- The value under any other name stays as it was. -/
theorem get?_insert_other {m : NameMap α} {name other : String} {value : α} (h : other ≠ name) :
    (m.insert name value).get? other = m.get? other := by
  simp only [get?, insert, find?_insertIntoList_other h]

/-- An entry under a new name is added to those that are there. -/
theorem insertIntoList_perm {name : String} {value : α} {entries : List (String × α)}
    (h : name ∉ entries.map Prod.fst) :
    (insertIntoList name value entries).Perm ((name, value) :: entries) := by
  induction entries with
  | nil => exact .refl _
  | cons other entries ih =>
      obtain ⟨hother, hentries⟩ := List.ne_and_not_mem_of_not_mem_cons h
      unfold insertIntoList
      split
      · exact .refl _
      split
      · exact ((ih hentries).cons other).trans (.swap _ _ _)
      · next hlt hgt => exact absurd (NameSet.eq_of_not_lt hlt hgt) hother

/-- Entries under new and distinct names are added to those that are there. -/
theorem toList_foldl_insert_perm {entries : List (String × α)} : ∀ m : NameMap α,
    (entries.map Prod.fst ++ m.toList.map Prod.fst).Nodup →
      (entries.foldl (fun m entry ↦ m.insert entry.1 entry.2) m).toList.Perm
        (entries ++ m.toList) := by
  induction entries with
  | nil =>
      intro m _
      exact .refl _
  | cons entry entries ih =>
      intro m hnodup
      rw [List.map_cons, List.cons_append, List.nodup_cons, List.mem_append, not_or] at hnodup
      obtain ⟨⟨hentries, hm⟩, hrest⟩ := hnodup
      have hinsert : (m.insert entry.1 entry.2).toList.Perm (entry :: m.toList) :=
        insertIntoList_perm hm
      have hmoved : (entries ++ (m.insert entry.1 entry.2).toList).Perm
          (entry :: (entries ++ m.toList)) :=
        (hinsert.append_left entries).trans List.perm_middle
      refine (ih _ ?_).trans hmoved
      rw [← List.map_append, (hmoved.map Prod.fst).nodup_iff]
      simp only [List.map_cons, List.map_append, List.nodup_cons, List.mem_append, not_or]
      exact ⟨⟨hentries, hm⟩, hrest⟩

/-- The names of a map are distinct. -/
theorem nodup_names (m : NameMap α) : (m.toList.map Prod.fst).Nodup := by
  refine List.pairwise_map.mpr (m.sorted.imp ?_)
  intro a b hlt heq
  rw [heq] at hlt
  exact String.lt_irrefl _ hlt

/-- A map is built from its entries in any order. -/
theorem ofList_of_perm {m : NameMap α} {entries : List (String × α)} (h : entries.Perm m.toList) :
    ofList entries = m := by
  have hnodup : (entries.map Prod.fst ++ (empty : NameMap α).toList.map Prod.fst).Nodup := by
    rw [empty, List.map_nil, List.append_nil, (h.map Prod.fst).nodup_iff]
    exact m.nodup_names
  have hperm : (ofList entries).toList.Perm m.toList := by
    have hbuilt := toList_foldl_insert_perm empty hnodup
    rw [empty, List.append_nil] at hbuilt
    exact hbuilt.trans h
  refine NameMap.ext (hperm.eq_of_pairwise ?_ (ofList entries).sorted m.sorted)
  intro a b _ _ hab hba
  exact absurd hba (String.lt_asymm hab)

end LintRoster.NameMap
