import LintRoster.Proofs.FileSystem.Listing
import LintRoster.Proofs.FileTree
import LintRoster.Proofs.Path.Steps

/-!
# What a change at or below one place leaves alone

`Directory.AgreeOutside` says that two trees are alike wherever a place is not on the way. A change
at the place is such a change, and so is everything that is done by several of them. If nothing
stood at the place, then everything that stood anywhere is still there. `Node.Named` is about the
names in a tree: each of them is one that can be a step of a path, and changes by such names keep
that.
-/

namespace LintRoster

namespace Directory

variable {d old middle new : Directory} {name : String} {names place other parent : List String}
  {node : Node} {entries : Directory} {f : Option Node → Option Node}

/-! ## Places below places -/

/-- Names lead on from a directory that other names lead to. -/
theorem find?_append_of_dir (h : d.find? parent = some (.dir entries)) :
    d.find? (parent ++ names) = entries.find? names := by
  induction parent generalizing d with
  | nil =>
      cases h
      rfl
  | cons first rest ih =>
      obtain ⟨sub, hsub, hrest⟩ := get?_of_find?_dir h
      rw [List.cons_append, find?_cons_dir hsub, ih hrest]

/-- Nothing stands below a place at which nothing stands. -/
theorem find?_append_of_none (h : d.find? parent = none) : d.find? (parent ++ names) = none := by
  induction parent generalizing d with
  | nil => cases h
  | cons first rest ih =>
      rw [find?] at h
      rw [List.cons_append, find?]
      cases hfirst : d.get? first with
      | none => rfl
      | some node =>
          rw [hfirst] at h
          cases node with
          | dir sub => exact ih h
          | file | link =>
              cases rest with
              | nil => cases h
              | cons => rfl

/-- What a name stands for is where the name alone leads. -/
theorem find?_singleton : d.find? [name] = d.get? name := by
  rw [find?]
  cases d.get? name with
  | none => rfl
  | some node => cases node <;> rfl

/-- What is put at a name in a directory is found there. -/
theorem find?_alterAt_self (h : d.find? parent = some (.dir entries)) :
    (d.alterAt (parent ++ [name]) fun _ ↦ some node).find? (parent ++ [name]) = some node := by
  induction parent generalizing d with
  | nil => exact find?_singleton.trans (get?_alter_self (by simp))
  | cons first rest ih =>
      obtain ⟨sub, hsub, hrest⟩ := get?_of_find?_dir h
      exact (find?_cons_dir (get?_alterAt_dir hsub (by simp))).trans (ih hrest)

/-! ## Trees that agree outside of a place -/

/-- The two trees are alike wherever the place is not on the way: nothing, the same file, the same
link or a directory stands there in both. -/
def AgreeOutside (place : List String) (old new : Directory) : Prop :=
  ∀ other, ¬ place <+: other → Option.Rel Node.Kept (old.find? other) (new.find? other)

/-- Every tree is like itself. -/
theorem kept_refl (found : Option Node) : Option.Rel Node.Kept found found := by
  cases found with
  | none => exact .none
  | some node => exact .some (.same node)

/-- What is like something is like all that it is like. -/
theorem kept_trans {a b c : Option Node} (h : Option.Rel Node.Kept a b)
    (h' : Option.Rel Node.Kept b c) : Option.Rel Node.Kept a c := by
  cases h with
  | none => exact h'
  | some hkept =>
      cases h' with
      | some hkept' => exact .some (hkept.trans hkept')

/-- Trees that are like a third one outside of a place are alike. -/
theorem AgreeOutside.trans (h : AgreeOutside place old middle)
    (h' : AgreeOutside place middle new) :
    AgreeOutside place old new :=
  fun other hother ↦ kept_trans (h other hother) (h' other hother)

/-- A change below a name changes the directory that the name stands for, if it is one. -/
theorem get?_alterAt_below {next : String} :
    (d.alterAt (name :: next :: names) f).get? name =
      match d.get? name with
      | some (.dir sub) => some (.dir (sub.alterAt (next :: names) f))
      | found => found :=
  get?_alter_self (by rintro (_ | _ | _) <;> simp)

/-- A change at a place is not noticed outside of it. -/
theorem agreeOutside_alterAt : AgreeOutside place d (d.alterAt place f) := by
  induction place generalizing d with
  | nil => exact fun other hother ↦ absurd List.nil_prefix hother
  | cons first rest ih =>
      rintro (_ | ⟨next, others⟩) hother
      · exact .some (.dir _ _)
      by_cases hnext : next = first
      · subst hnext
        -- The other place begins with the same name, so it leaves the way to the change later.
        rw [List.cons_prefix_cons, not_and] at hother
        cases rest with
        | nil => exact absurd List.nil_prefix (hother rfl)
        | cons second rest =>
            rw [find?, find?, get?_alterAt_below]
            cases d.get? next with
            | none => exact .none
            | some node =>
                cases node with
                | dir sub => exact ih others (hother rfl)
                | file | link => exact kept_refl _
      · rw [find?_cons_congr (get?_alterAt_other hnext)]
        exact kept_refl _

/-- Where nothing stood off the way to the place, nothing stands. -/
theorem AgreeOutside.find?_eq_none (h : AgreeOutside place old new) (hoff : ¬ place <+: other)
    (hnone : old.find? other = none) : new.find? other = none := by
  have hkept := h other hoff
  rw [hnone] at hkept
  generalize new.find? other = found at hkept
  cases hkept
  rfl

/-- Where nothing stood at the place, everything else is still there. -/
theorem AgreeOutside.within (h : AgreeOutside place old new) (hnone : old.find? place = none) :
    old.Within new := by
  intro other node hother
  have hoff : ¬ place <+: other := by
    rintro ⟨below, rfl⟩
    rw [find?_append_of_none hnone] at hother
    cases hother
  have hkept := h other hoff
  rw [hother] at hkept
  generalize new.find? other = found at hkept
  cases hkept with
  | some hkept => exact ⟨_, rfl, hkept⟩

/-! ## Names that can be steps of paths -/

/-- What a name stands for is one of the entries. -/
theorem mem_toList_of_get? (h : d.get? name = some node) : (name, node) ∈ d.toList := by
  induction d using Directory.rec (motive_1 := fun _ ↦ True) with
  | file | link | dir => trivial
  | empty => cases h
  | entry first other rest _ ih =>
      rw [get?] at h
      rw [toList]
      split at h
      · next hfirst =>
          cases h
          rw [hfirst]
          exact List.mem_cons_self
      · exact List.mem_cons_of_mem _ (ih h)

/-- An entry after a change is an entry from before, or what the changed name stands for. -/
theorem mem_toList_alter {child : Node} {changed : String}
    (h : (name, child) ∈ (d.alter changed f).toList) :
    (name, child) ∈ d.toList ∨
      (name = changed ∧ ∃ found, f found = some child ∧
        ∀ node, found = some node → (changed, node) ∈ d.toList) := by
  induction d using Directory.rec (motive_1 := fun _ ↦ True) with
  | file | link | dir => trivial
  | empty =>
      rw [alter] at h
      split at h
      · cases h
      · next node hnew =>
          obtain ⟨rfl, rfl⟩ : name = changed ∧ child = node := by simpa [toList] using h
          exact Or.inr ⟨rfl, none, hnew, by simp⟩
  | entry first other rest _ ih =>
      rw [alter] at h
      split at h
      · next hfirst =>
          subst hfirst
          split at h
          · exact Or.inl (List.mem_cons_of_mem _ h)
          · next node hnew =>
              rw [toList, List.mem_cons, Prod.mk.injEq] at h
              obtain ⟨rfl, rfl⟩ | hrest := h
              · refine Or.inr ⟨rfl, some other, hnew, ?_⟩
                rintro _ ⟨⟩
                exact List.mem_cons_self
              · exact Or.inl (List.mem_cons_of_mem _ hrest)
      split at h
      · split at h
        · exact Or.inl h
        · next node hnew =>
            rw [toList, List.mem_cons, Prod.mk.injEq] at h
            obtain ⟨rfl, rfl⟩ | hrest := h
            · exact Or.inr ⟨rfl, none, hnew, by simp⟩
            · exact Or.inl hrest
      · rw [toList, List.mem_cons] at h
        obtain hhead | hrest := h
        · exact Or.inl (List.mem_cons.mpr (Or.inl hhead))
        · refine (ih hrest).imp (List.mem_cons_of_mem _) ?_
          rintro ⟨rfl, found, hfound, hold⟩
          exact ⟨rfl, found, hfound, fun node hnode ↦ List.mem_cons_of_mem _ (hold node hnode)⟩

end Directory

namespace Node

/-- Every name in the tree is one that can be a step of a path. -/
def Named (node : Node) : Prop :=
  ∀ names target, node.Leads names target → ∀ name ∈ names, Path.IsStepName name

/-- Names lead on from where other names lead. -/
theorem Leads.append {start middle target : Node} {names more : List String}
    (h : start.Leads names middle) (h' : middle.Leads more target) :
    start.Leads (names ++ more) target := by
  induction h with
  | here => exact h'
  | enter entries name child names _ hmem _ ih => exact .enter _ _ _ _ _ hmem (ih h')

/-- What stands at a place is where its names lead. -/
theorem leads_of_find? {d : Directory} {place : List String} {node : Node}
    (h : d.find? place = some node) : (Node.dir d).Leads place node := by
  induction place generalizing d with
  | nil =>
      cases h
      exact .here _
  | cons first rest ih =>
      obtain ⟨sub, hsub, hrest⟩ | ⟨hself, rfl, -⟩ := Directory.find?_cons_eq_some_iff.mp h
      · exact .enter _ _ _ _ _ (Directory.mem_toList_of_get? hsub) (ih hrest)
      · exact .enter _ _ _ _ _ (Directory.mem_toList_of_get? hself) (.here _)

/-- What stands anywhere in a tree with such names has such names. -/
theorem Named.of_find? {d : Directory} {place : List String} {node : Node}
    (hnamed : (Node.dir d).Named) (h : d.find? place = some node) : node.Named := by
  intro names target hleads name hname
  exact hnamed _ target ((leads_of_find? h).append hleads) name (List.mem_append_right _ hname)

/-- A directory has such names if its entries have. -/
theorem named_dir_iff {entries : Directory} :
    (Node.dir entries).Named ↔
      ∀ name child, (name, child) ∈ entries.toList → Path.IsStepName name ∧ child.Named := by
  constructor
  · intro h name child hmem
    refine ⟨h [name] child (.enter _ _ _ _ _ hmem (.here _)) name List.mem_cons_self, ?_⟩
    intro names target hleads other hother
    exact h _ target (.enter _ _ _ _ _ hmem hleads) other (List.mem_cons_of_mem _ hother)
  · intro h names target hleads name hname
    cases hleads with
    | here => cases hname
    | enter _ first child rest _ hmem hrest =>
        obtain ⟨hfirst, hchild⟩ := h first child hmem
        obtain rfl | hname := List.mem_cons.mp hname
        · exact hfirst
        · exact hchild rest target hrest name hname

/-- An empty directory has no names in it. -/
@[simp]
theorem named_dir_empty : (Node.dir .empty).Named :=
  named_dir_iff.mpr nofun

/-- A directory has such names if its first entry and the others have. -/
@[simp]
theorem named_dir_entry_iff {name : String} {node : Node} {rest : Directory} :
    (Node.dir (.entry name node rest)).Named ↔
      (Path.IsStepName name ∧ node.Named) ∧ (Node.dir rest).Named := by
  simp only [named_dir_iff, Directory.toList, List.mem_cons, Prod.mk.injEq]
  constructor
  · intro h
    exact ⟨h _ _ (Or.inl ⟨rfl, rfl⟩), fun name child hmem ↦ h name child (Or.inr hmem)⟩
  · rintro ⟨hfirst, hrest⟩ name child (⟨rfl, rfl⟩ | hmem)
    · exact hfirst
    · exact hrest name child hmem

/-- A file has no names in it. -/
@[simp]
theorem named_file {bytes : List UInt8} {executable : Bool} :
    (Node.file bytes executable).Named := by
  rintro _ _ ⟨⟩ _ ⟨⟩

/-- A link has no names in it. -/
@[simp]
theorem named_link {target : String} : (Node.link target).Named := by
  rintro _ _ ⟨⟩ _ ⟨⟩

/-- A tree keeps such names if what such a name stands for is changed to something with such names.
-/
theorem Named.alter {d : Directory} {name : String} {f : Option Node → Option Node}
    (h : (Node.dir d).Named) (hname : Path.IsStepName name)
    (hf : ∀ found new, (∀ old, found = some old → old.Named) → f found = some new → new.Named) :
    (Node.dir (d.alter name f)).Named := by
  rw [named_dir_iff] at h ⊢
  intro other child hmem
  obtain hold | ⟨rfl, found, hfound, hfrom⟩ := Directory.mem_toList_alter hmem
  · exact h other child hold
  · exact ⟨hname, hf found child (fun old hold ↦ (h other old (hfrom old hold)).2) hfound⟩

/-- A tree keeps such names if what a place with such names stands for is changed to something with
such names. -/
theorem Named.alterAt {d : Directory} {place : List String} {f : Option Node → Option Node}
    (h : (Node.dir d).Named) (hplace : ∀ name ∈ place, Path.IsStepName name)
    (hf : ∀ found new, f found = some new → new.Named) :
    (Node.dir (d.alterAt place f)).Named := by
  induction place generalizing d with
  | nil => exact h
  | cons first rest ih =>
      obtain ⟨hfirst, hrest⟩ := List.forall_mem_cons.mp hplace
      cases rest with
      | nil => exact h.alter hfirst fun found new _ hnew ↦ hf found new hnew
      | cons second rest =>
          refine h.alter hfirst fun found new hold hnew ↦ ?_
          -- Below the first name only a directory is changed, by the rest of the place.
          split at hnew
          · cases hnew
            exact ih (hold _ rfl) hrest
          · exact hold new hnew

end Node

end LintRoster
