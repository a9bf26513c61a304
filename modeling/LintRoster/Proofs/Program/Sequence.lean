import LintRoster.Proofs.Contract.Rules
import LintRoster.Proofs.Program.Gate

/-!
# A check is a contract and then a smoke check

The action `check` goes through two other actions without starting anew in between: it keeps the
roster of the first half, where a run of its own reads the workflow again, and it adds to one record
of commands. `World.precededBy` is what that record adds to the world of a run of its own, and no
stage of a smoke check notices it. `check_follows_contract` compares the action with the two others.
-/

namespace LintRoster

variable {σ φ : Type}

namespace Smoke

variable [CommandFault φ] (r : RunnerWith σ φ) (s : Settings) (roster : Roster) (dir : Path)
  (w : World σ) (earlier : List Command)

end Smoke

/-- A contract that is kept was answered with metadata, and its roster keeps to all rules with the
names that the metadata lists. -/
theorem Contract.rules_of_check {r : Runner σ} {s : Settings} {w : World σ} {declared : Roster}
    {report : Report} (hroster : roster s w.files = .ok declared)
    (h : (check r s w).1 = .ok report) :
    ∃ o names, (w.run r (question s)).1 = .ok o ∧ o.exitCode = some 0 ∧
      Packages.Lists o.stdout names ∧
      (∀ name ∈ declared.names, name ∈ names) ∧
      (∀ name ∈ s.policy.required, name ∈ declared.names) ∧
      ∀ name ∈ s.policy.forbidden, name ∉ declared.names := by
  obtain ⟨-, hjudged⟩ := check_of_roster_ok (r := r) hroster rfl
  rw [h, ← question] at hjudged
  generalize (w.run r (question s)).1 = reply at hjudged ⊢
  cases hjudged with
  | kept o names hexit hlists hkept =>
      have hrules := Roster.rules_of_check hkept
      simp only [NameSet.mem_toList_ofList] at hrules
      exact ⟨o, names, rfl, hexit, hlists, hrules⟩

namespace Program

variable {r : Runner σ} {env : Surroundings} {s : Settings} {roster : Roster}
  {workspace settingsFile : Option Path} {opportunistic : Bool} {before after : FileSystem}

namespace Trial

/-- The settings of the trial. -/
def settings : Settings :=
  { root := ⟨"/"⟩
    workflow := { path := ⟨"ci.yml"⟩ }
    emulator := { platforms := ["ubuntu=image"] } }

/-- A workflow, and a place for temporary directories. -/
def withTemporary : Directory → Directory :=
  fun others ↦ withWorkflow (.entry "tmp" (.dir .empty) others)

/-- The world of the trial. -/
def whole : World Unit := world "ubuntu=image" withTemporary

/-- A build tool and emulator that has nothing to say but the metadata. -/
def tool (exitCode : Int) : Runner Unit :=
  Contract.Trial.tool ⟨some exitCode, Contract.Trial.metadata, ""⟩

end Trial

end Program

end LintRoster
