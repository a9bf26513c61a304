import LintRoster.NameSet
import LintRoster.Proofs.Text.ByteOrder
import Mathlib.Data.List.Dedup
import Mathlib.Data.List.Sort

/-!
# The members of sets of names

A set is its members: two sets with the same members are equal, and a smaller set is shown in the
order of a larger one. A set that is built from a list has the members of the list, shows them in
the order of their bytes, and is as large as the list is without repetitions.
-/

namespace LintRoster.NameSet

/-- The members after several insertions are the old ones and the new ones. -/
theorem mem_foldl_insert {names : List String} {name : String} : ∀ s : NameSet,
    name ∈ (names.foldl insert s).toList ↔ name ∈ s.toList ∨ name ∈ names := by
  induction names with
  | nil => simp
  | cons other names ih =>
      intro s
      rw [List.foldl_cons, ih, mem_toList_insert, List.mem_cons, or_comm (a := name = other),
        or_assoc]

/-- The members of the set of a list are those of the list. -/
@[simp]
theorem mem_toList_ofList {names : List String} {name : String} :
    name ∈ (ofList names).toList ↔ name ∈ names := by
  rw [ofList, mem_foldl_insert]
  simp [empty]

/-- A set contains its members. -/
@[simp]
theorem contains_iff {s : NameSet} {name : String} : s.contains name = true ↔ name ∈ s.toList :=
  List.contains_iff_mem

/-- A set is empty exactly if it has no members. -/
@[simp]
theorem isEmpty_iff {s : NameSet} : s.isEmpty = true ↔ s.toList = [] :=
  List.isEmpty_iff

/-- A set shows its members in the order of the bytes of their encoding. -/
theorem sorted_by_bytes (s : NameSet) :
    s.toList.Pairwise fun a b ↦ Utf8.encode a < Utf8.encode b :=
  s.sorted.imp Utf8.lt_iff_encode_lt.mp

/-- A set holds each member once. -/
theorem nodup_toList (s : NameSet) : s.toList.Nodup := by
  refine s.sorted.imp ?_
  rintro a _ hlt rfl
  exact String.lt_irrefl a hlt

/-- Sets with the same members are equal. -/
theorem eq_of_mem_iff {s t : NameSet} (h : ∀ name, name ∈ s.toList ↔ name ∈ t.toList) : s = t :=
  NameSet.ext (s.sorted.eq_of_mem_iff t.sorted h)

/-- The members of a smaller set are shown in the same order among those of a larger one. -/
theorem sublist_of_subset {s t : NameSet} (h : ∀ name ∈ s.toList, name ∈ t.toList) :
    s.toList.Sublist t.toList :=
  List.sublist_of_subperm_of_pairwise (List.subperm_of_subset s.nodup_toList h) s.sorted t.sorted

/-- The members after several removals are those that were not removed. -/
theorem mem_foldl_erase {removed : List String} {name : String} : ∀ s : NameSet,
    name ∈ (removed.foldl erase s).toList ↔ name ∈ s.toList ∧ name ∉ removed := by
  induction removed with
  | nil => simp
  | cons other removed ih =>
      intro s
      rw [List.foldl_cons, ih, mem_toList_erase, List.mem_cons, not_or, and_assoc]

/-- The set of a list has as many members as there are distinct names in the list. -/
theorem size_ofList (names : List String) : (ofList names).size = names.dedup.length := by
  have hperm : (ofList names).toList.Perm names.dedup := by
    refine (List.perm_ext_iff_of_nodup (nodup_toList _) names.nodup_dedup).mpr fun name ↦ ?_
    rw [mem_toList_ofList, List.mem_dedup]
  exact hperm.length_eq

end LintRoster.NameSet
