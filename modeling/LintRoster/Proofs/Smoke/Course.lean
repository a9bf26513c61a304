import LintRoster.Smoke

/-!
# The course of a smoke check

`Preflight` and `Course` are the executable `preflight` and `check` as relations: one constructor
for each way in which a stage can end, with all that has to happen before it. `preflight_iff` and
`check_iff` show that they agree, so that every fact about a check is one case analysis over its
course.
-/

namespace LintRoster

variable {σ : Type}

/-- A command that is handed over is answered by the runner, which may change the files and its
memory, and is put on the record. -/
theorem World.run_eq_iff {φ : Type} {r : RunnerWith σ φ} {c : Command} {w after : World σ}
    {reply : Except φ Output} :
    w.run r c = (reply, after) ↔ ∃ files memory,
      r.answer c w.files w.memory = (reply, files, memory) ∧
        after = ⟨files, memory, w.calls ++ [c]⟩ := by
  unfold World.run
  rcases r.answer c w.files w.memory with ⟨answer, files, memory⟩
  constructor
  · rintro ⟨⟩
    exact ⟨files, memory, rfl, rfl⟩
  · rintro ⟨_, _, ⟨⟩, rfl⟩
    rfl

namespace Smoke

/-- `Preflight r s w result after` says a preflight that starts in `w` ends with `result` and leaves
the world `after`. Four endings mean that the emulator cannot be used. -/
inductive Preflight (r : Runner σ) (s : Settings) (w : World σ) :
    Except Error Unit → World σ → Prop where
  | missing :
      r.locates w.files s.emulator.program = false →
      Preflight r s w
        (.error (.emulatorUnavailable ("`" ++ s.emulator.program ++ "` was not found on PATH"))) w
  | slow (after) :
      r.locates w.files s.emulator.program = true →
      w.run r (Emulator.listJobs s) = (.error .timeout, after) →
      Preflight r s w
        (.error (.emulatorUnavailable ("`" ++ (Emulator.listJobs s).display ++
          "` did not list jobs within " ++ toString s.emulator.preflightSeconds ++ " seconds")))
        after
  | unlaunched (cause after) :
      r.locates w.files s.emulator.program = true →
      w.run r (Emulator.listJobs s) = (.error (.launch cause), after) →
      Preflight r s w
        (.error (.emulatorUnavailable
          ("failed to launch `" ++ s.emulator.program ++ "`: " ++ cause.message)))
        after
  | refused (listing after) :
      r.locates w.files s.emulator.program = true →
      w.run r (Emulator.listJobs s) = (.ok listing, after) → listing.exitCode ≠ some 0 →
      Preflight r s w
        (.error (.emulatorUnavailable ("`" ++ (Emulator.listJobs s).display ++
          "` could not list jobs; is the container runtime reachable?\n" ++ listing.combined)))
        after
  | broken (cause after) :
      r.locates w.files s.emulator.program = true →
      w.run r (Emulator.listJobs s) = (.error (.io cause), after) →
      Preflight r s w (.error (.io cause)) after
  | usable (listing after) :
      r.locates w.files s.emulator.program = true →
      w.run r (Emulator.listJobs s) = (.ok listing, after) → listing.exitCode = some 0 →
      Preflight r s w (.ok ()) after

/-- `JobStarted r s dir w started` says a check that starts in `w` gets as far as its job, which it
hands to the runner in the world `started`: the runner answered the listing of the jobs with exit
code zero, and the directory for the artifacts was made. -/
inductive JobStarted (r : Runner σ) (s : Settings) (dir : Path) (w : World σ) : World σ → Prop where
  | intro (listing files memory made) :
      r.locates w.files s.emulator.program = true →
      r.answer (Emulator.listJobs s) w.files w.memory = (.ok listing, files, memory) →
      listing.exitCode = some 0 → files.makeDirs dir = (.ok (), made) →
      JobStarted r s dir w ⟨made, memory, w.calls ++ [Emulator.listJobs s]⟩

/-- `JobRan r s roster dir w o after` says a check that starts in `w` gets as far as its job, which
the runner answers with the output `o`, and that it leaves the world `after`. -/
inductive JobRan (r : Runner σ) (s : Settings) (roster : Roster) (dir : Path) (w : World σ) :
    Output → World σ → Prop where
  | intro (started o files memory) :
      JobStarted r s dir w started →
      r.answer (Emulator.runJob s roster dir) started.files started.memory =
        (.ok o, files, memory) →
      JobRan r s roster dir w o ⟨files, memory, started.calls ++ [Emulator.runJob s roster dir]⟩

/-- `Course r s roster dir w mode result after` says a check that starts in `w`, and that would
use the directory `dir`, answers `result` and leaves the world `after`. -/
inductive Course (r : Runner σ) (s : Settings) (roster : Roster) (dir : Path) (w : World σ) :
    Mode → Except Error Outcome → World σ → Prop where
  | disabled : Course r s roster dir w .disabled (.ok (.skipped (disabledReason s.emulator))) w
  | skipped (reason after) :
      Preflight r s w (.error (.emulatorUnavailable reason)) after →
      Course r s roster dir w .opportunistic (.ok (.skipped reason)) after
  | unavailable (reason after) :
      Preflight r s w (.error (.emulatorUnavailable reason)) after →
      Course r s roster dir w .required (.error (.emulatorUnavailable reason)) after
  | broken (mode cause after) :
      mode ≠ .disabled → Preflight r s w (.error (.io cause)) after →
      Course r s roster dir w mode (.error (.io cause)) after
  | unmade (mode listed fault made) :
      mode ≠ .disabled → Preflight r s w (.ok ()) listed →
      listed.files.makeDirs dir = (.error fault, made) →
      Course r s roster dir w mode (.error (.io fault)) { listed with files := made }
  | faulted (mode started fault after) :
      mode ≠ .disabled → JobStarted r s dir w started →
      started.run r (Emulator.runJob s roster dir) = (.error fault, after) →
      Course r s roster dir w mode (.error (fault.toError (Emulator.runJob s roster dir))) after
  | judged (mode o after) :
      mode ≠ .disabled → JobRan r s roster dir w o after →
      Course r s roster dir w mode
        ((judge after.files o dir s.emulator.forbiddenSignatures).map .passed) after

section Stages

variable {φ : Type} [CommandFault φ] {r : RunnerWith σ φ} {s : Settings} {roster : Roster}
  {artifactRoot : Path} {runId : String} {mode : Mode} {w after : World σ}

/-- Outside of the disabled mode a preflight that failed decides the check. -/
theorem check_of_preflight_error {e : Error} (hmode : mode ≠ .disabled)
    (h : preflight r s w = (.error e, after)) :
    check r s mode roster artifactRoot runId w = (unusable mode e, after) := by
  cases mode with
  | disabled => exact absurd rfl hmode
  | opportunistic | required => simp only [check, h]

/-- Outside of the disabled mode a preflight that passed leaves the check to a run of the job. -/
theorem check_of_preflight_ok (hmode : mode ≠ .disabled) (h : preflight r s w = (.ok (), after)) :
    check r s mode roster artifactRoot runId w =
      runFresh r s roster (artifactDir artifactRoot runId) after := by
  cases mode with
  | disabled => exact absurd rfl hmode
  | opportunistic | required => simp only [check, h]

end Stages

variable {r : Runner σ} {s : Settings} {roster : Roster} {dir artifactRoot : Path} {runId : String}
  {mode : Mode} {w started after : World σ} {o : Output}

/-- Every preflight takes one of the courses of `Preflight`. -/
theorem preflight_complete (r : Runner σ) (s : Settings) (w : World σ) :
    Preflight r s w (preflight r s w).1 (preflight r s w).2 := by
  cases hlocated : r.locates w.files s.emulator.program with
  | false =>
      simp only [preflight, hlocated]
      exact .missing hlocated
  | true =>
      simp only [preflight, hlocated, if_true]
      rcases hrun : w.run r (Emulator.listJobs s) with ⟨fault | listing, after⟩
      · cases fault with
        | timeout => exact .slow after hlocated hrun
        | launch cause => exact .unlaunched cause after hlocated hrun
        | io cause => exact .broken cause after hlocated hrun
      · simp only [verdict]
        split
        · next h => exact .usable listing after hlocated hrun (Output.succeeded_iff.mp h)
        · next h => exact .refused listing after hlocated hrun (mt Output.succeeded_iff.mpr h)

/-- A preflight that takes a course of `Preflight` ends as that course does. -/
theorem preflight_sound {result : Except Error Unit} (h : Preflight r s w result after) :
    preflight r s w = (result, after) := by
  cases h with
  | missing hlocated => simp [preflight, hlocated]
  | slow _ hlocated hrun | unlaunched _ _ hlocated hrun | broken _ _ hlocated hrun =>
      simp only [preflight, hlocated, if_true, hrun]
      rfl
  | refused _ _ hlocated hrun hexit | usable _ _ hlocated hrun hexit =>
      simp [preflight, hlocated, hrun, verdict, Output.succeeded, hexit]

/-- `Preflight` holds exactly for what a preflight answers and leaves. -/
theorem preflight_iff {result : Except Error Unit} :
    Preflight r s w result after ↔ preflight r s w = (result, after) := by
  constructor
  · exact preflight_sound
  · intro h
    simpa only [h] using preflight_complete r s w

/-- The job is started exactly when the preflight passed and the directory for its artifacts was
made. -/
theorem job_started_iff : JobStarted r s dir w started ↔
    ∃ listed made, Preflight r s w (.ok ()) listed ∧
      listed.files.makeDirs dir = (.ok (), made) ∧ started = { listed with files := made } := by
  constructor
  · rintro ⟨listing, files, memory, made, hlocated, hanswer, hexit, hmade⟩
    have hrun := World.run_eq_iff.mpr ⟨files, memory, hanswer, rfl⟩
    exact ⟨_, made, .usable listing _ hlocated hrun hexit, hmade, rfl⟩
  · rintro ⟨listed, made, hpreflight, hmade, rfl⟩
    cases hpreflight with
    | usable listing _ hlocated hrun hexit =>
        obtain ⟨files, memory, hanswer, rfl⟩ := World.run_eq_iff.mp hrun
        exact .intro listing files memory made hlocated hanswer hexit hmade

/-- A job ran exactly if it was started and the runner, handed its command, gave an output. -/
theorem job_ran_iff : JobRan r s roster dir w o after ↔
    ∃ started, JobStarted r s dir w started ∧
      started.run r (Emulator.runJob s roster dir) = (.ok o, after) := by
  constructor
  · rintro ⟨started, _, files, memory, hstarted, hanswer⟩
    exact ⟨started, hstarted, World.run_eq_iff.mpr ⟨files, memory, hanswer, rfl⟩⟩
  · rintro ⟨started, hstarted, hrun⟩
    obtain ⟨files, memory, hanswer, rfl⟩ := World.run_eq_iff.mp hrun
    exact .intro started o files memory hstarted hanswer

/-- A check that gets as far as its job goes on with that job. -/
theorem check_of_job_started (hmode : mode ≠ .disabled)
    (h : JobStarted r s (artifactDir artifactRoot runId) w started) :
    check r s mode roster artifactRoot runId w =
      runJob r s roster (artifactDir artifactRoot runId) started := by
  obtain ⟨listed, made, hpreflight, hmade, rfl⟩ := job_started_iff.mp h
  rw [check_of_preflight_ok hmode (preflight_iff.mp hpreflight), runFresh, hmade]

/-- A check whose job ran ends with the judgement of that run. -/
theorem check_of_job_ran (hmode : mode ≠ .disabled)
    (h : JobRan r s roster (artifactDir artifactRoot runId) w o after) :
    check r s mode roster artifactRoot runId w =
      ((judge after.files o (artifactDir artifactRoot runId)
        s.emulator.forbiddenSignatures).map .passed, after) := by
  obtain ⟨started, hstarted, hrun⟩ := job_ran_iff.mp h
  rw [check_of_job_started hmode hstarted, runJob, hrun]

/-- A check whose course is known ends as that course does. -/
theorem check_sound {result : Except Error Outcome}
    (h : Course r s roster (artifactDir artifactRoot runId) w mode result after) :
    check r s mode roster artifactRoot runId w = (result, after) := by
  cases h with
  | disabled => rfl
  | skipped _ _ hpreflight | unavailable _ _ hpreflight =>
      rw [check_of_preflight_error (by simp) (preflight_iff.mp hpreflight)]
      rfl
  | broken _ _ _ hmode hpreflight =>
      rw [check_of_preflight_error hmode (preflight_iff.mp hpreflight)]
      cases mode <;> rfl
  | unmade _ _ _ _ hmode hpreflight hmade =>
      rw [check_of_preflight_ok hmode (preflight_iff.mp hpreflight), runFresh, hmade]
  | faulted _ _ _ _ hmode hstarted hrun =>
      rw [check_of_job_started hmode hstarted, runJob, hrun]
      rfl
  | judged _ _ _ hmode hran => exact check_of_job_ran hmode hran

/-- A preflight fails because the emulator cannot be used or because of a file, and for no other
reason. -/
theorem preflight_error_cases {e : Error} (h : Preflight r s w (.error e) after) :
    (∃ reason, e = .emulatorUnavailable reason) ∨ ∃ cause, e = .io cause := by
  cases h with
  | missing | slow | unlaunched | refused => exact Or.inl ⟨_, rfl⟩
  | broken => exact Or.inr ⟨_, rfl⟩

/-- Every check outside of the disabled mode takes one of the courses of `Course`. -/
theorem enabled_check_complete (r : Runner σ) (s : Settings) (roster : Roster)
    (artifactRoot : Path) (runId : String) (w : World σ) (hmode : mode ≠ .disabled) :
    Course r s roster (artifactDir artifactRoot runId) w mode
      (check r s mode roster artifactRoot runId w).1
      (check r s mode roster artifactRoot runId w).2 := by
  rcases hends : preflight r s w with ⟨result, listed⟩
  have hpreflight := preflight_iff.mpr hends
  cases result with
  | error e =>
      rw [check_of_preflight_error hmode (preflight_iff.mp hpreflight)]
      obtain ⟨reason, rfl⟩ | ⟨cause, rfl⟩ := preflight_error_cases hpreflight
      · cases mode with
        | disabled => exact absurd rfl hmode
        | opportunistic => exact .skipped reason listed hpreflight
        | required => exact .unavailable reason listed hpreflight
      · have hunusable : unusable mode (.io cause) = .error (.io cause) := by cases mode <;> rfl
        rw [hunusable]
        exact .broken mode cause listed hmode hpreflight
  | ok =>
      rw [check_of_preflight_ok hmode (preflight_iff.mp hpreflight), runFresh]
      rcases hmade : listed.files.makeDirs (artifactDir artifactRoot runId) with ⟨answer, made⟩
      cases answer with
      | error fault => exact .unmade mode listed fault made hmode hpreflight hmade
      | ok =>
          have hstarted := job_started_iff.mpr ⟨listed, made, hpreflight, hmade, rfl⟩
          -- A fault of the runner ends the check at once; only an output is judged.
          simp only [runJob]
          split
          · next fault after hrun => exact .faulted mode _ fault after hmode hstarted hrun
          · next o after hrun =>
              exact .judged mode o after hmode (job_ran_iff.mpr ⟨_, hstarted, hrun⟩)

/-- `Course` holds exactly for what a check answers and leaves. -/
theorem check_iff {result : Except Error Outcome} :
    Course r s roster (artifactDir artifactRoot runId) w mode result after ↔
      check r s mode roster artifactRoot runId w = (result, after) := by
  constructor
  · exact check_sound
  · intro h
    by_cases hmode : mode = .disabled
    · subst hmode
      cases h
      exact .disabled
    · simpa only [h] using enabled_check_complete r s roster artifactRoot runId w hmode

/-- Only a job that ran lets a check pass, and only with the report of its judgement. -/
theorem job_ran_of_passed {report : Report}
    (h : (check r s mode roster artifactRoot runId w).1 = .ok (.passed report)) :
    mode ≠ .disabled ∧ ∃ o after,
      JobRan r s roster (artifactDir artifactRoot runId) w o after ∧
      judge after.files o (artifactDir artifactRoot runId) s.emulator.forbiddenSignatures =
        .ok report := by
  rcases hends : check r s mode roster artifactRoot runId w with ⟨result, after⟩
  rw [hends] at h
  cases check_iff.mpr hends with
  | disabled | skipped | unavailable | broken | unmade | faulted => cases h
  | judged _ o _ hmode hran =>
      refine ⟨hmode, o, after, hran, ?_⟩
      cases hjudged : judge after.files o (artifactDir artifactRoot runId)
        s.emulator.forbiddenSignatures with
      | error e =>
          rw [hjudged] at h
          cases h
      | ok judged =>
          rw [hjudged] at h
          cases h
          rfl

end Smoke

end LintRoster
