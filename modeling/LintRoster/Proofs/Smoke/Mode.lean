import LintRoster.Proofs.Smoke.Verdict

/-!
# What the mode of a smoke check decides

A required and an opportunistic check take the same course until a preflight says that the emulator
cannot be used, and part there. `opportunistic_course` is this simulation, and `check_skipped_iff`
says which checks are skipped. `opportunistic_check_agrees` puts both together with the mode that is
resolved from the opt-in variable.
-/

namespace LintRoster.Smoke

variable {σ : Type}

/-- A required check's answer as an opportunistic check gives it: an emulator that cannot be used is
a reason to skip. -/
def tolerated : Except Error Outcome → Except Error Outcome
  | .error (.emulatorUnavailable reason) => .ok (.skipped reason)
  | answer => answer

/-- An answer that does not say the emulator cannot be used is tolerated as it is. -/
theorem tolerated_eq_self {answer : Except Error Outcome}
    (h : ∀ reason, answer ≠ .error (.emulatorUnavailable reason)) : tolerated answer = answer := by
  unfold tolerated
  split
  · next reason => exact absurd rfl (h reason)
  · rfl

/-- A fault of a command says nothing about whether the emulator can be used. -/
theorem fault_toError_ne_unavailable (fault : RunFault) (c : Command) (reason : String) :
    fault.toError c ≠ .emulatorUnavailable reason := by
  cases fault <;> simp [RunFault.toError]

/-- A run that is judged does not say that the emulator cannot be used. -/
theorem judged_ne_unavailable (files : FileSystem) (o : Output) (dir : Path)
    (signatures : List String) (reason : String) :
    (judge files o dir signatures).map Outcome.passed ≠ .error (.emulatorUnavailable reason) := by
  obtain ⟨artifacts, haccepted⟩ | ⟨unmet, hunmet⟩ | ⟨hexit, hclean, fault, hfault⟩ :=
    judge_cases files dir signatures o
  · simp [judge_of_accepted haccepted, Except.map]
  · simp [judge_of_first_unmet hunmet, Except.map]
  · simp [judge_of_listFiles_error hexit hclean hfault, Except.map]

/-- A run that is judged is not skipped. -/
theorem judged_ne_skipped (files : FileSystem) (o : Output) (dir : Path)
    (signatures : List String) (reason : String) :
    (judge files o dir signatures).map Outcome.passed ≠ .ok (.skipped reason) := by
  cases judge files o dir signatures <;> simp [Except.map]

section Courses

variable {r : Runner σ} {s : Settings} {roster : Roster} {dir artifactRoot : Path} {runId : String}
  {mode : Mode} {w after : World σ}

/-- An opportunistic check takes the course of a required check, and tolerates its answer. -/
theorem opportunistic_course {answer : Except Error Outcome}
    (h : Course r s roster dir w .required answer after) :
    Course r s roster dir w .opportunistic (tolerated answer) after := by
  -- Behind the preflight no answer says that the emulator cannot be used, so none is tolerated.
  cases h with
  | unavailable reason _ hpreflight => exact .skipped reason after hpreflight
  | broken _ cause _ _ hpreflight => exact .broken _ cause after (by simp) hpreflight
  | unmade _ listed fault made _ hpreflight hmade =>
      exact .unmade _ listed fault made (by simp) hpreflight hmade
  | faulted _ started fault _ _ hstarted hrun =>
      rw [tolerated_eq_self (by simp [fault_toError_ne_unavailable])]
      exact .faulted _ started fault after (by simp) hstarted hrun
  | judged _ o _ _ hran =>
      rw [tolerated_eq_self (judged_ne_unavailable after.files o dir _)]
      exact .judged _ o after (by simp) hran

/-- A check is skipped exactly if it is disabled, or if it is opportunistic and its preflight says
that the emulator cannot be used. -/
theorem check_skipped_iff :
    (∃ reason, (check r s mode roster artifactRoot runId w).1 = .ok (.skipped reason)) ↔
      mode = .disabled ∨
      (mode = .opportunistic ∧
        ∃ reason, (preflight r s w).1 = .error (.emulatorUnavailable reason)) := by
  constructor
  · rintro ⟨reason, hskipped⟩
    rcases hends : check r s mode roster artifactRoot runId w with ⟨answer, after⟩
    rw [hends] at hskipped
    cases check_iff.mpr hends with
    | disabled => exact Or.inl rfl
    | skipped cause _ hpreflight =>
        exact Or.inr ⟨rfl, cause, by rw [preflight_iff.mp hpreflight]⟩
    | unavailable | broken | unmade | faulted => cases hskipped
    | judged => exact absurd hskipped (judged_ne_skipped _ _ _ _ _)
  · rintro (rfl | ⟨rfl, reason, hpreflight⟩)
    · exact ⟨_, rfl⟩
    · have hcourse := preflight_complete r s w
      rw [hpreflight] at hcourse
      exact ⟨reason, by rw [check_sound (.skipped reason _ hcourse)]⟩

/-- A preflight says that the emulator cannot be used exactly if its program is not found, cannot be
started, does not list the jobs in time, or lists them with an exit code other than zero. -/
theorem preflight_unavailable_iff :
    (∃ reason, (preflight r s w).1 = .error (.emulatorUnavailable reason)) ↔
      r.locates w.files s.emulator.program = false ∨
      (w.run r (Emulator.listJobs s)).1 = .error .timeout ∨
      (∃ cause, (w.run r (Emulator.listJobs s)).1 = .error (.launch cause)) ∨
      ∃ listing, (w.run r (Emulator.listJobs s)).1 = .ok listing ∧ listing.exitCode ≠ some 0 := by
  have hcourse := preflight_complete r s w
  rcases hends : preflight r s w with ⟨result, after⟩
  rw [hends] at hcourse
  cases hcourse with
  | missing hlocated => simp [hlocated]
  | slow _ hlocated hrun => simp [hrun]
  | unlaunched cause _ hlocated hrun => simp [hrun]
  | refused listing _ hlocated hrun hexit => simp [hrun, hexit]
  | broken cause _ hlocated hrun => simp [hlocated, hrun]
  | usable listing _ hlocated hrun hexit => simp [hlocated, hrun, hexit]

end Courses

namespace Mode

/-- The opt-in token asks for a required check, whatever else is wished. -/
theorem resolve_optInToken (s : EmulatorSettings) (opportunistic : Bool) :
    resolve s (some s.optInToken) opportunistic = .required := by
  simp [resolve, ofOptIn, EmulatorSettings.isOptIn]

/-- Without the opt-in token the wish decides between an opportunistic check and none. -/
theorem resolve_of_ne_optInToken {s : EmulatorSettings} {value : Option String}
    (h : value ≠ some s.optInToken) (opportunistic : Bool) :
    resolve s value opportunistic = if opportunistic then .opportunistic else .disabled := by
  simp [resolve, ofOptIn, EmulatorSettings.isOptIn, h]

end Mode

/-- A required and an opportunistic check of one world answer the same and leave the same world, the
record of commands included, but where the required one says that the emulator cannot be used, the
opportunistic one is skipped for the same reason. With the mode that is resolved from the opt-in
variable, a check is skipped exactly if the variable does not hold the token, and either no
opportunistic run is wished or the preflight says that the emulator cannot be used. It says so
exactly if the program is not found or not started, or does not list the jobs in time or with exit
code zero. -/
theorem opportunistic_check_agrees (r : Runner σ) (s : Settings) (roster : Roster)
    (artifactRoot : Path) (runId : String) (w : World σ) :
    (∀ reason,
      (check r s .required roster artifactRoot runId w).1 = .error (.emulatorUnavailable reason) →
      (check r s .opportunistic roster artifactRoot runId w).1 = .ok (.skipped reason)) ∧
    ((∀ reason,
      (check r s .required roster artifactRoot runId w).1 ≠ .error (.emulatorUnavailable reason)) →
      (check r s .opportunistic roster artifactRoot runId w).1 =
        (check r s .required roster artifactRoot runId w).1) ∧
    (check r s .opportunistic roster artifactRoot runId w).2 =
      (check r s .required roster artifactRoot runId w).2 ∧
    (∀ value opportunistic,
      (∃ reason, (check r s (Mode.resolve s.emulator value opportunistic) roster artifactRoot runId
        w).1 = .ok (.skipped reason)) ↔
        value ≠ some s.emulator.optInToken ∧
          (opportunistic = false ∨
            ∃ reason, (preflight r s w).1 = .error (.emulatorUnavailable reason))) ∧
    (∀ opportunistic reason,
      (check r s (Mode.resolve s.emulator (some s.emulator.optInToken) opportunistic) roster
        artifactRoot runId w).1 ≠ .ok (.skipped reason)) ∧
    ((∃ reason, (preflight r s w).1 = .error (.emulatorUnavailable reason)) ↔
      r.locates w.files s.emulator.program = false ∨
      (w.run r (Emulator.listJobs s)).1 = .error .timeout ∨
      (∃ cause, (w.run r (Emulator.listJobs s)).1 = .error (.launch cause)) ∨
      ∃ listing, (w.run r (Emulator.listJobs s)).1 = .ok listing ∧
        listing.exitCode ≠ some 0) := by
  have hrequired := enabled_check_complete r s roster artifactRoot runId w
    (by simp : Mode.required ≠ .disabled)
  have hagree := check_iff.mp (opportunistic_course hrequired)
  refine ⟨?_, ?_, by rw [hagree], ?_, ?_, preflight_unavailable_iff⟩
  · intro reason hunavailable
    rw [hagree, hunavailable]
    rfl
  · intro havailable
    rw [hagree, tolerated_eq_self havailable]
  · intro value opportunistic
    rw [check_skipped_iff]
    by_cases hvalue : value = some s.emulator.optInToken
    · simp [hvalue, Mode.resolve_optInToken]
    · cases opportunistic <;> simp [hvalue, Mode.resolve_of_ne_optInToken hvalue]
  · intro opportunistic reason hskipped
    have hmode := check_skipped_iff.mp ⟨reason, hskipped⟩
    simp [Mode.resolve_optInToken] at hmode

namespace Trial

/-- A runner that finds no program. -/
def absent : Runner Unit := ⟨fun _ _ ↦ false, fun _ files _ ↦ (.error .timeout, files, ())⟩

end Trial

open Trial in
/-- An opportunistic check is skipped where no emulator is found, and ends as a required one where
the emulator can be used. -/
theorem opportunistic_check_trial :
    (check absent settings .opportunistic roster ⟨"out"⟩ "0badc0de" world).1 =
        .ok (.skipped "`act` was not found on PATH") ∧
      (check (emulator quiet (.dir archive)) settings .opportunistic roster ⟨"out"⟩ "0badc0de"
        world).1 = answer quiet (.dir archive) := by
  have hagree (r : Runner Unit) := opportunistic_check_agrees r settings roster ⟨"out"⟩ "0badc0de"
    world
  constructor
  · have hmissing : Preflight absent settings world _ world := .missing rfl
    have hrequired : check absent settings .required roster ⟨"out"⟩ "0badc0de" world = _ :=
      check_of_preflight_error (by simp) (preflight_iff.mp hmissing)
    exact (hagree absent).1 _ (by rw [hrequired]; rfl)
  · refine (hagree _).2.1 fun reason ↦ ?_
    rw [← answer, answer_eq]
    exact judged_ne_unavailable _ _ _ _ reason

end LintRoster.Smoke
