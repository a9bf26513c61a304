import LintRoster.Proofs.Path.Place
import LintRoster.Proofs.Smoke.Verdict

/-!
# Where the emulator exports to

The job runs in the root of the workspace, so the emulator reads the path of the directory for
artifacts from there. The check makes and walks that directory from its own current directory.
`exported_place_eq_iff` says when the two are one place, as far as paths go, and that these are the
places which a file system without links resolves them to.
-/

namespace LintRoster

/-- The place that an argument of a command denotes for the process that runs it, if the command is
handed over by a process whose current directory is `cwd`. -/
def Command.placeOf (c : Command) (cwd : List String) (argument : String) : List String :=
  Path.placeFrom (c.dir.placeFrom cwd) ⟨argument⟩

namespace Smoke

/-- The directory for artifacts is given by an absolute path exactly if its parent is. -/
theorem isAbsolute_artifactDir (artifactRoot : Path) (runId : String) :
    (artifactDir artifactRoot runId).isAbsolute = artifactRoot.isAbsolute :=
  artifactRoot.isAbsolute_child (by simp)

/-- The command that runs the job names the directory for artifacts behind the flag for it. -/
theorem runJob_args (s : Settings) (roster : Roster) (dir : Path) :
    (Emulator.runJob s roster dir).args =
      (Emulator.eventArgs s ++ Emulator.jobArgs s ++ Emulator.platformArgs s) ++
        Emulator.artifactFlag :: dir.text ::
          (s.emulator.extraArgs ++ Emulator.matrixArgs s ++ Emulator.rosterArgs s roster) := by
  simp [Emulator.runJob]

variable {σ : Type}

/-- A run of the job leaves what its command leaves. -/
theorem runJob_world {φ : Type} [CommandFault φ] (r : RunnerWith σ φ) (s : Settings)
    (roster : Roster) (dir : Path) (w : World σ) :
    (runJob r s roster dir w).2 = (w.run r (Emulator.runJob s roster dir)).2 := by
  rw [runJob]
  rcases w.run r (Emulator.runJob s roster dir) with ⟨fault | o, after⟩ <;> rfl

/-- A run of the job hands one command to the runner. -/
theorem calls_runJob (r : Runner σ) (s : Settings) (roster : Roster) (dir : Path) (w : World σ) :
    (runJob r s roster dir w).2.calls = w.calls ++ [Emulator.runJob s roster dir] := by
  rw [runJob_world]
  rfl

/-- A check that gets as far as its job makes a directory, hands the runner the command for the job
last, and walks that same directory after it. The argument behind the flag for artifacts denotes the
directory exactly if the directory is given by an absolute path, or if the root of the workspace and
the current directory of the check are the same as high up as the path of the directory climbs. Where
the file tree holds no links, both paths are resolved to the places that they denote. -/
theorem exported_place_eq_iff (r : Runner σ) (s : Settings) (mode : Mode) (roster : Roster)
    (artifactRoot : Path) (runId : String) (w started : World σ)
    (hmode : mode ≠ .disabled)
    (hstarted : JobStarted r s (artifactDir artifactRoot runId) w started) :
    (∃ listed, Preflight r s w (.ok ()) listed ∧
      listed.files.makeDirs (artifactDir artifactRoot runId) = (.ok (), started.files)) ∧
    (∀ o after, started.run r (Emulator.runJob s roster (artifactDir artifactRoot runId)) =
        (.ok o, after) →
      (check r s mode roster artifactRoot runId w).1 =
        (judge after.files o (artifactDir artifactRoot runId)
          s.emulator.forbiddenSignatures).map .passed) ∧
    ∃ command argument before later,
      (check r s mode roster artifactRoot runId w).2.calls = started.calls ++ [command] ∧
      command.args = before ++ Emulator.artifactFlag :: argument :: later ∧
      before = Emulator.eventArgs s ++ Emulator.jobArgs s ++ Emulator.platformArgs s ∧
      (∀ cwd, command.placeOf cwd argument = (artifactDir artifactRoot runId).placeFrom cwd ↔
        artifactRoot.isAbsolute = true ∨
          Path.up (artifactDir artifactRoot runId).descent.climb (s.root.placeFrom cwd) =
            Path.up (artifactDir artifactRoot runId).descent.climb cwd) ∧
      (FileSystem.LinkFree started.files.root → ∀ cwd target,
        (FileSystem.resolve ⟨started.files.root, command.dir.placeFrom cwd⟩ ⟨argument⟩ = .ok target →
          target.place = command.placeOf cwd argument) ∧
        (FileSystem.resolve ⟨started.files.root, cwd⟩ (artifactDir artifactRoot runId) = .ok target →
          target.place = (artifactDir artifactRoot runId).placeFrom cwd)) := by
  have hcheck : check r s mode roster artifactRoot runId w = _ :=
    check_of_job_started hmode hstarted
  refine ⟨?_, ?_, ?_⟩
  · obtain ⟨listed, made, hpreflight, hmade, rfl⟩ := job_started_iff.mp hstarted
    exact ⟨listed, hpreflight, hmade⟩
  · intro o after hrun
    rw [check_of_job_ran hmode (job_ran_iff.mpr ⟨started, hstarted, hrun⟩)]
  · refine ⟨Emulator.runJob s roster (artifactDir artifactRoot runId),
      (artifactDir artifactRoot runId).text, _, _, ?_, runJob_args s roster _, rfl, ?_, ?_⟩
    · rw [hcheck, calls_runJob]
    · intro cwd
      rw [← isAbsolute_artifactDir artifactRoot runId]
      exact Path.placeFrom_eq_iff
    · intro hfree cwd target
      exact ⟨fun htold ↦ FileSystem.resolve_place hfree htold,
        fun hmade ↦ FileSystem.resolve_place hfree hmade⟩

/-- No link stands in the file tree in which the job of the trial starts. -/
theorem Trial.linkFree_started : FileSystem.LinkFree Trial.started.files.root :=
  .entry_dir (.entry_dir .empty .empty) .empty

open Trial in
/-- In the trial, whose workspace is `/work`, the emulator is told the place that the check inspects
if the check is made from `/work`, and another place if it is made from the root. The directory that
the check makes from the root stands at the place that its path denotes. -/
theorem exported_place_trial :
    ∃ command argument before later,
      (check (emulator quiet (.dir .empty)) settings .required roster ⟨"out"⟩ "0badc0de"
        world).2.calls.getLast? = some command ∧
      command.args = before ++ Emulator.artifactFlag :: argument :: later ∧
      command.placeOf ["work"] argument = dir.placeFrom ["work"] ∧
      command.placeOf [] argument ≠ dir.placeFrom [] ∧
      dir.placeFrom [] = ["out", "act-artifacts-0badc0de"] := by
  have hwork : settings.root.placeFrom ["work"] = ["work"] := by decide
  have hroot : settings.root.placeFrom [] = ["work"] := by decide
  have hclimb : dir.descent.climb = 0 := by decide
  have hrelative : Path.isAbsolute ⟨"out"⟩ = false := by decide
  have hstarted := job_started quiet (.dir .empty)
  have hresolve := resolveWith_dir (.dir .empty) true (by simp)
  rw [← artifactDir_eq] at hstarted hclimb hresolve ⊢
  obtain ⟨-, -, command, argument, before, later, hcalls, hargs, -, hplace, hresolved⟩ :=
    exported_place_eq_iff (emulator quiet (.dir .empty)) settings .required roster ⟨"out"⟩
      "0badc0de" world started (by simp) hstarted
  refine ⟨command, argument, before, later, ?_, hargs, ?_, ?_, ?_⟩
  · rw [hcalls, List.getLast?_concat]
  · exact (hplace ["work"]).mpr (Or.inr (by rw [hwork]))
  · rw [Ne, hplace, hrelative, hclimb, hroot]
    decide
  · exact ((hresolved linkFree_started [] _).2 hresolve).symm

open Trial in
/-- The trial is made from the root, but its job runs in `/work`: the emulator is told to export to
`/work/out`, while the check makes and walks a directory in `/out`. -/
theorem exported_place_ne :
    JobStarted (emulator quiet (.dir .empty)) settings (artifactDir ⟨"out"⟩ "0badc0de") world
        started ∧
      started.files.cwd = [] ∧ settings.root.text ≠ "" ∧
      (∃ before later, (Emulator.runJob settings roster dir).args =
        before ++ Emulator.artifactFlag :: dir.text :: later) ∧
      (Emulator.runJob settings roster dir).placeOf started.files.cwd dir.text =
        ["work", "out", "act-artifacts-0badc0de"] ∧
      dir.placeFrom started.files.cwd = ["out", "act-artifacts-0badc0de"] := by
  have hroot : settings.root.placeFrom [] = ["work"] := by decide
  have hplaces : dir.placeFrom ["work"] = ["work", "out", "act-artifacts-0badc0de"] := by decide
  rw [artifactDir_eq]
  refine ⟨job_started quiet (.dir .empty), rfl, by decide, ⟨_, _, runJob_args settings roster dir⟩,
    ?_, by decide⟩
  exact (congrArg dir.placeFrom hroot).trans hplaces

end Smoke

end LintRoster
