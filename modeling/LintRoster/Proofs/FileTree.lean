import LintRoster.FileTree

/-!
# What changes when a directory is added

Induction on nodes is `Node.induction`. The algebra of looking up and putting in: an entry that is
put in is found under its name, and no other name notices. `Directory.Within` says that one tree
holds everything that another one holds; three theorems say what a tree holds after an empty
directory is put at a free name in it.
-/

namespace LintRoster

/-- Induction on nodes: what holds of a directory whenever it holds of everything that stands in it,
and of all files and links, holds of every node. -/
@[elab_as_elim, induction_eliminator]
theorem Node.induction {motive : Node → Prop}
    (file : ∀ bytes executable, motive (.file bytes executable))
    (link : ∀ target, motive (.link target))
    (dir : ∀ entries : Directory, (∀ name child, (name, child) ∈ entries.toList → motive child) →
      motive (.dir entries)) (node : Node) : motive node := by
  induction node using Node.rec (motive_2 := fun entries ↦
    ∀ name child, (name, child) ∈ entries.toList → motive child) with
  | file bytes executable => exact file bytes executable
  | link target => exact link target
  | dir entries ih => exact dir entries ih
  | empty name child hmem => cases hmem
  | entry first node rest hnode hrest name child hmem =>
      obtain hfirst | hmem := List.mem_cons.mp hmem
      · cases hfirst
        exact hnode
      · exact hrest name child hmem

/-- `old.Kept new` says a node is as it was, or still a directory. -/
inductive Node.Kept : Node → Node → Prop where
  | same (node) : Kept node node
  | dir (old new) : Kept (.dir old) (.dir new)

/-- A node that was kept twice was kept. -/
theorem Node.Kept.trans {a b c : Node} (hab : a.Kept b) (hbc : b.Kept c) : a.Kept c := by
  cases hab with
  | same => exact hbc
  | dir =>
      cases hbc with
      | same | dir => exact .dir _ _

namespace Directory

variable {d old new : Directory} {name other : String} {names place : List String} {node : Node}
  {f : Option Node → Option Node}

/-- A change of one name is not noticed under another. -/
theorem get?_alter_other (h : other ≠ name) : (d.alter name f).get? other = d.get? other := by
  induction d using Directory.rec (motive_1 := fun _ ↦ True) with
  | file | link | dir => trivial
  | empty =>
      rw [alter]
      split
      · rfl
      · simp [get?, Ne.symm h]
  | entry first _ rest _ ih =>
      rw [alter]
      split
      · next hfirst =>
          subst hfirst
          split <;> simp [get?, Ne.symm h]
      split
      · split
        · rfl
        · simp [get?, Ne.symm h]
      · rw [get?, get?, ih]

/-- A change of a name that does not take its entry away is found under it. -/
theorem get?_alter_self (h : ∀ node, f (some node) ≠ none) :
    (d.alter name f).get? name = f (d.get? name) := by
  induction d using Directory.rec (motive_1 := fun _ ↦ True) with
  | file | link | dir => trivial
  | empty =>
      rw [alter]
      split
      · next hnone => rw [get?, hnone]
      · next hsome => simp [get?, hsome]
  | entry first node rest _ ih =>
      rw [alter]
      split
      · next hfirst =>
          subst hfirst
          split
          · next hnone => exact absurd hnone (h node)
          · next hsome => simp [get?, hsome]
      · next hfirst =>
          split
          · next hlast =>
              have hrest : rest.get? name = none := by
                simpa using (Bool.and_eq_true_iff.mp hlast).2
              split
              · next hnone => simp [get?, hfirst, hrest, hnone]
              · next hsome => simp [get?, hfirst, hrest, hsome]
          · rw [get?, get?, if_neg hfirst, if_neg hfirst, ih]

/-- A name and further names lead through a directory, or the name alone leads to something else. -/
theorem find?_cons_eq_some_iff :
    d.find? (name :: names) = some node ↔
      (∃ sub, d.get? name = some (.dir sub) ∧ sub.find? names = some node) ∨
      (d.get? name = some node ∧ names = [] ∧ node.isDir = false) := by
  rw [find?]
  cases hfound : d.get? name with
  | none => simp
  | some found =>
      cases found with
      | dir sub =>
          constructor
          · exact fun h ↦ Or.inl ⟨sub, rfl, h⟩
          · rintro (⟨_, ⟨⟩, h⟩ | ⟨⟨⟩, -, h⟩)
            · exact h
            · cases h
      | file | link =>
          simp only [List.isEmpty_iff]
          split
          · next h =>
              constructor
              · rintro ⟨⟩
                exact Or.inr ⟨rfl, h, rfl⟩
              · rintro (⟨_, ⟨⟩, _⟩ | ⟨h, -⟩)
                exact h
          · next h => simp [h]

/-- Everything that stands somewhere in the old tree stands there in the new one, where a directory
may have other entries. -/
def Within (old new : Directory) : Prop :=
  ∀ place node, old.find? place = some node →
    ∃ node', new.find? place = some node' ∧ node.Kept node'

/-- Every tree is within itself. -/
theorem Within.refl (d : Directory) : d.Within d :=
  fun _ node h ↦ ⟨node, h, .same node⟩

/-- A tree within another one is within all that the other is within. -/
theorem Within.trans {a b c : Directory} (hab : a.Within b) (hbc : b.Within c) : a.Within c := by
  intro place node h
  obtain ⟨node', h', hkept⟩ := hab place node h
  obtain ⟨node'', h'', hkept'⟩ := hbc place node' h'
  exact ⟨node'', h'', hkept.trans hkept'⟩

/-- A directory is within another one if each of its entries is, be it unchanged or a directory
within a directory. -/
theorem Within.of_entries
    (h : ∀ name node, old.get? name = some node → new.get? name = some node ∨
      ∃ sub sub', node = .dir sub ∧ new.get? name = some (.dir sub') ∧ sub.Within sub') :
    old.Within new := by
  rintro (_ | ⟨name, names⟩) node hfound
  · obtain rfl : Node.dir old = node := Option.some.inj hfound
    exact ⟨.dir new, rfl, .dir old new⟩
  · obtain ⟨sub, hsub, hrest⟩ | ⟨hself, rfl, hkind⟩ := find?_cons_eq_some_iff.mp hfound
    · obtain hsame | ⟨_, sub', ⟨⟩, hnew, hwithin⟩ := h name _ hsub
      · exact ⟨node, find?_cons_eq_some_iff.mpr (Or.inl ⟨sub, hsame, hrest⟩), .same node⟩
      · obtain ⟨node', hnode', hkept⟩ := hwithin names node hrest
        exact ⟨node', find?_cons_eq_some_iff.mpr (Or.inl ⟨sub', hnew, hnode'⟩), hkept⟩
    · obtain hsame | ⟨_, _, rfl, -⟩ := h name _ hself
      · exact ⟨node, find?_cons_eq_some_iff.mpr (Or.inr ⟨hsame, rfl, hkind⟩), .same node⟩
      · cases hkind

/-- A change somewhere below one name is not noticed under another. -/
theorem get?_alterAt_other (h : other ≠ name) :
    (d.alterAt (name :: names) f).get? other = d.get? other := by
  cases names with
  | nil => exact get?_alter_other h
  | cons => exact get?_alter_other h

/-- A change somewhere below a directory is a change of that directory. -/
theorem get?_alterAt_dir {sub : Directory} (h : d.get? name = some (.dir sub)) (hne : names ≠ []) :
    (d.alterAt (name :: names) f).get? name = some (.dir (sub.alterAt names f)) := by
  cases names with
  | nil => exact absurd rfl hne
  | cons next names =>
      refine (get?_alter_self ?_).trans (by rw [h])
      rintro (_ | _ | _) <;> simp

/-- Names lead from a directory where they lead from the directory under the first of them. -/
theorem find?_cons_dir {sub : Directory} (h : d.get? name = some (.dir sub)) :
    d.find? (name :: names) = sub.find? names := by
  rw [find?, h]

/-- Where names lead depends on nothing but what the first of them stands for. -/
theorem find?_cons_congr (h : old.get? name = new.get? name) :
    old.find? (name :: names) = new.find? (name :: names) := by
  rw [find?, find?, h]

/-- The first of the names that lead to a directory stands for a directory. -/
theorem get?_of_find?_dir {entries : Directory}
    (h : d.find? (name :: names) = some (.dir entries)) :
    ∃ sub, d.get? name = some (.dir sub) ∧ sub.find? names = some (.dir entries) := by
  obtain hdir | ⟨-, -, hkind⟩ := find?_cons_eq_some_iff.mp h
  · exact hdir
  · cases hkind

/-- The tree with an empty directory at a place. -/
def addDir (d : Directory) (place : List String) : Directory :=
  d.alterAt place fun _ ↦ some (.dir .empty)

variable {parent : List String} {entries : Directory}

/-- A directory that was added is found. -/
theorem find?_addDir_self (h : d.find? parent = some (.dir entries)) :
    (d.addDir (parent ++ [name])).find? (parent ++ [name]) = some (.dir .empty) := by
  induction parent generalizing d with
  | nil => exact find?_cons_dir (get?_alter_self (by simp))
  | cons first rest ih =>
      obtain ⟨sub, hsub, hrest⟩ := get?_of_find?_dir h
      exact (find?_cons_dir (get?_alterAt_dir hsub (by simp))).trans (ih hrest)

/-- Everything is still there after a directory was added at a free name. -/
theorem within_addDir (h : d.find? parent = some (.dir entries))
    (hfree : d.find? (parent ++ [name]) = none) : d.Within (d.addDir (parent ++ [name])) := by
  induction parent generalizing d with
  | nil =>
      refine Within.of_entries fun other node hother ↦ Or.inl ?_
      rw [← hother]
      refine get?_alterAt_other ?_
      rintro rfl
      rw [List.nil_append, find?, hother] at hfree
      cases node <;> simp [find?] at hfree
  | cons first rest ih =>
      obtain ⟨sub, hsub, hrest⟩ := get?_of_find?_dir h
      refine Within.of_entries fun other node hother ↦ ?_
      by_cases hname : other = first
      · subst hname
        rw [List.cons_append, find?_cons_dir hsub] at hfree
        cases hsub.symm.trans hother
        exact Or.inr ⟨sub, _, rfl, get?_alterAt_dir hsub (by simp), ih hrest hfree⟩
      · exact Or.inl ((get?_alterAt_other hname).trans hother)

/-- Nothing but the added directory is new. -/
theorem eq_of_find?_addDir (h : d.find? parent = some (.dir entries))
    (hnew : (d.addDir (parent ++ [name])).find? place = some node) (hold : d.find? place = none) :
    place = parent ++ [name] := by
  -- A place that leaves the way to the new directory looks up what it did before.
  induction parent generalizing d place with
  | nil =>
      cases place with
      | nil => cases hold
      | cons first rest =>
          by_cases hname : first = name
          · subst hname
            have hself : (d.addDir [first]).get? first = some (.dir .empty) :=
              get?_alter_self (by simp)
            rw [List.nil_append, find?_cons_dir hself] at hnew
            cases rest with
            | nil => rfl
            | cons => cases hnew
          · rw [List.nil_append, addDir, find?_cons_congr (get?_alterAt_other hname), hold] at hnew
            cases hnew
  | cons next others ih =>
      obtain ⟨sub, hsub, hrest⟩ := get?_of_find?_dir h
      cases place with
      | nil => cases hold
      | cons first rest =>
          by_cases hname : first = next
          · subst hname
            rw [List.cons_append, addDir,
              find?_cons_dir (get?_alterAt_dir hsub (by simp))] at hnew
            rw [find?_cons_dir hsub] at hold
            rw [ih hrest hnew hold, List.cons_append]
          · rw [List.cons_append, addDir, find?_cons_congr (get?_alterAt_other hname), hold] at hnew
            cases hnew

end Directory

end LintRoster
