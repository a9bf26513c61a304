import LintRoster.Proofs.Contract.Rules

/-!
# What a check depends on

A check looks at the set of the declared names and at the set of the packages, and at nothing else
of a roster or a workspace. `check_depends_on_sets` says so, and that more packages never do harm;
`check_after_removals` says what a check that passed reports after packages were removed.
-/

namespace LintRoster.Roster

section

variable {r r' : Roster} {packages packages' : NameSet} {policy : CratePolicy}

/-- Rosters of the same names contain the same names. -/
theorem contains_congr (h : ∀ name, name ∈ r'.names ↔ name ∈ r.names) :
    r'.contains = r.contains := by
  funext name
  rw [Bool.eq_iff_iff, contains_iff, contains_iff]
  exact h name

/-- The same names are unresolved in rosters of the same names. -/
theorem unresolved_congr (h : ∀ name, name ∈ r'.names ↔ name ∈ r.names) (packages : NameSet) :
    r'.unresolved packages = r.unresolved packages := by
  refine NameSet.eq_of_mem_iff fun name ↦ ?_
  rw [mem_unresolved_iff, mem_unresolved_iff, h name]

/-- Rosters of the same names violate a policy in the same way. -/
theorem violations_congr (h : ∀ name, name ∈ r'.names ↔ name ∈ r.names) (policy : CratePolicy) :
    r'.violations policy = r.violations policy := by
  rw [violations, contains_congr h]
  rfl

/-- Rosters of the same names have the same result. -/
theorem check_congr (h : ∀ name, name ∈ r'.names ↔ name ∈ r.names) (packages : NameSet)
    (policy : CratePolicy) : r'.check packages policy = r.check packages policy := by
  rw [check, unresolved_congr h, violations_congr h]
  rfl

/-- With more packages, no other name is unresolved. -/
theorem unresolved_sublist (h : ∀ name ∈ packages.toList, name ∈ packages'.toList) :
    (r.unresolved packages').toList.Sublist (r.unresolved packages).toList := by
  refine NameSet.sublist_of_subset fun name hname ↦ ?_
  obtain ⟨hdeclared, hmissing⟩ := mem_unresolved_iff.mp hname
  exact mem_unresolved_iff.mpr ⟨hdeclared, fun hmem ↦ hmissing (h name hmem)⟩

/-- Once all names are packages, more packages change nothing. -/
theorem check_of_more_packages (hresolved : ∀ name ∈ r.names, name ∈ packages.toList)
    (h : ∀ name ∈ packages.toList, name ∈ packages'.toList) :
    r.check packages' policy = r.check packages policy := by
  have hresolved' : ∀ name ∈ r.names, name ∈ packages'.toList :=
    fun name hname ↦ h name (hresolved name hname)
  rw [check_of_resolved hresolved, check_of_resolved hresolved']

/-- Sets from which the same names were removed are equal. -/
theorem foldl_erase_congr {removed removed' : List String}
    (h : ∀ name, name ∈ removed' ↔ name ∈ removed) (packages : NameSet) :
    removed'.foldl NameSet.erase packages = removed.foldl NameSet.erase packages := by
  refine NameSet.eq_of_mem_iff fun name ↦ ?_
  rw [NameSet.mem_foldl_erase, NameSet.mem_foldl_erase, h name]

/-- If all names were packages, those that are unresolved after removals are the ones that were
removed. -/
theorem mem_unresolved_foldl_erase {removed : List String} {name : String}
    (hresolved : ∀ name ∈ r.names, name ∈ packages.toList) :
    name ∈ (r.unresolved (removed.foldl NameSet.erase packages)).toList ↔
      name ∈ removed ∧ name ∈ r.names := by
  rw [mem_unresolved_iff, NameSet.mem_foldl_erase, not_and, not_not]
  constructor
  · rintro ⟨hdeclared, hgone⟩
    exact ⟨hgone (hresolved name hdeclared), hdeclared⟩
  · rintro ⟨hremoved, hdeclared⟩
    exact ⟨hdeclared, fun _ ↦ hremoved⟩

end

/-- The result of a check, with all that an error says, is the same for any two rosters of the same
names, in whatever order, with whatever repetitions and wherever they are declared. If packages are
added to a workspace, a check that passed still passes, the unresolved names are some of those
before, in their order, and if there were none before, the result is the same. -/
theorem check_depends_on_sets (policy : CratePolicy) :
    (∀ (packages : NameSet) (r r' : Roster), (∀ name, name ∈ r'.names ↔ name ∈ r.names) →
      r'.check packages policy = r.check packages policy) ∧
    ∀ (r : Roster) (packages packages' : NameSet),
      (∀ name ∈ packages.toList, name ∈ packages'.toList) →
        (r.check packages policy = .ok () → r.check packages' policy = .ok ()) ∧
        (r.unresolved packages').toList.Sublist (r.unresolved packages).toList ∧
        ((r.unresolved packages).toList = [] →
          r.check packages' policy = r.check packages policy) := by
  refine ⟨fun packages r r' h ↦ check_congr h packages policy, ?_⟩
  intro r packages packages' hmore
  refine ⟨fun hkept ↦ ?_, unresolved_sublist hmore, fun hnone ↦ ?_⟩
  · rw [check_of_more_packages (rules_of_check hkept).1 hmore, hkept]
  · have hresolved := unresolved_isEmpty_iff.mp (NameSet.isEmpty_iff.mpr hnone)
    exact check_of_more_packages hresolved hmore

open Trial in
/-- A roster with its names in another order and other repetitions has the same report on the policy
of the trial, and so has the roster of the trial in a larger workspace. -/
theorem check_depends_on_sets_trial :
    (⟨["alpha", "beta", "beta"], .job "build-lints", by decide⟩ : Roster).check
        (.ofList ["beta", "alpha"]) policy =
      pair.check (.ofList ["beta", "alpha"]) policy ∧
    pair.check (.ofList ["gamma", "alpha", "beta"]) policy =
      pair.check (.ofList ["beta", "alpha"]) policy ∧
    (pair.unresolved (.ofList ["alpha"])).toList.Sublist (pair.unresolved .empty).toList := by
  obtain ⟨hsame, hmore⟩ := check_depends_on_sets policy
  refine ⟨hsame _ _ _ fun name ↦ ?_, ?_, ?_⟩
  · simp only [pair, List.mem_cons, List.not_mem_nil, or_false, or_self]
    exact or_comm
  · exact (hmore pair _ (.ofList ["gamma", "alpha", "beta"]) (by decide)).2.2 (by decide)
  · exact (hmore pair .empty (.ofList ["alpha"]) (by decide)).2.1

/-- If a roster passes its check and packages are then removed from the workspace, one after the
other, it still passes as long as no removed name is declared. Otherwise the unresolved names are
reported, and these are the removed names that are declared, each of them once and in the order of
their bytes. The order of the removals and their repetitions do not matter. -/
theorem check_after_removals (r : Roster) (packages : NameSet) (policy : CratePolicy)
    (hkept : r.check packages policy = .ok ()) (removed : List String) :
    ((∀ name ∈ removed, name ∉ r.names) →
      r.check (removed.foldl NameSet.erase packages) policy = .ok ()) ∧
    ((∃ name ∈ removed, name ∈ r.names) → ∃ missing,
      r.check (removed.foldl NameSet.erase packages) policy = .error (.unresolved missing) ∧
      (missing.Pairwise fun a b ↦ Utf8.encode a < Utf8.encode b) ∧
      ∀ name, name ∈ missing ↔ name ∈ removed ∧ name ∈ r.names) ∧
    ∀ removed' : List String, (∀ name, name ∈ removed' ↔ name ∈ removed) →
      r.check (removed'.foldl NameSet.erase packages) policy =
        r.check (removed.foldl NameSet.erase packages) policy := by
  have hresolved := (rules_of_check hkept).1
  refine ⟨fun hundeclared ↦ ?_, ?_, fun removed' h ↦ by rw [foldl_erase_congr h]⟩
  · have hleft : ∀ name ∈ r.names, name ∈ (removed.foldl NameSet.erase packages).toList := by
      intro name hname
      exact (NameSet.mem_foldl_erase packages).mpr
        ⟨hresolved name hname, fun hremoved ↦ hundeclared name hremoved hname⟩
    rw [check_of_resolved hleft, ← check_of_resolved hresolved, hkept]
  · rintro ⟨name, hremoved, hdeclared⟩
    have hmissing := (mem_unresolved_foldl_erase hresolved).mpr ⟨hremoved, hdeclared⟩
    refine ⟨_, check_of_unresolved ⟨name, mem_unresolved_iff.mp hmissing⟩ policy,
      NameSet.sorted_by_bytes _, fun _ ↦ mem_unresolved_foldl_erase hresolved⟩

open Trial in
/-- Of four removals, two of which are of one name and one of which is of a name that is no package,
the declared names are reported once. -/
theorem check_after_removals_trial :
    pair.check (.ofList ["gamma", "beta", "alpha"]) {} = .ok () ∧
    ∃ missing,
      pair.check (["beta", "delta", "alpha", "beta"].foldl NameSet.erase
        (.ofList ["gamma", "beta", "alpha"])) {} = .error (.unresolved missing) ∧
      "alpha" ∈ missing ∧ "beta" ∈ missing ∧ "delta" ∉ missing := by
  have hkept : pair.check (.ofList ["gamma", "beta", "alpha"]) {} = .ok () := by decide
  obtain ⟨missing, hcheck, -, hmem⟩ :=
    (check_after_removals pair _ {} hkept ["beta", "delta", "alpha", "beta"]).2.1
      ⟨"beta", by decide, by decide⟩
  exact ⟨hkept, missing, hcheck, (hmem _).mpr (by decide), (hmem _).mpr (by decide),
    fun hdelta ↦ absurd ((hmem _).mp hdelta) (by decide)⟩

end LintRoster.Roster
