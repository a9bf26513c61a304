import LintRoster.Proofs.FileSystem.Growth
import LintRoster.Proofs.Path.Steps
import LintRoster.Proofs.Smoke.Export

/-!
# What a smoke check does to its world

A check can do three things, in one order: hand over the listing of the jobs, make the directory for
the artifacts, and hand over the job. `Comes` says how far a check comes with them, `Footprint` what
that means for its world, and `check_effects` that every check leaves such a footprint: nothing else
is handed to the runner, and nothing but the runner and the making of that directory changes a file.
-/

namespace LintRoster.Smoke

variable {σ φ : Type}

/-- One thing that a check does to its world. -/
inductive Effect where
  | command (c : Command)
  | makeDirs (dir : Path)
deriving DecidableEq

namespace Effect

/-- The command that an effect hands over. -/
def command? : Effect → Option Command
  | command c => some c
  | makeDirs _ => none

/-- What an effect makes of a world. The runner answers a command, and the command is put on the
record. -/
def perform (r : RunnerWith σ φ) (w : World σ) : Effect → World σ
  | command c =>
      let (_, files, memory) := r.answer c w.files w.memory
      ⟨files, memory, w.calls ++ [c]⟩
  | makeDirs dir => { w with files := (w.files.makeDirs dir).2 }

/-- What several effects make of a world, one after the other. -/
def performAll (r : RunnerWith σ φ) (w : World σ) (effects : List Effect) : World σ :=
  effects.foldl (perform r) w

variable {r : RunnerWith σ φ} {effects : List Effect}

/-- A command is performed by handing it over to the runner. -/
theorem perform_command (w : World σ) (c : Command) :
    perform r w (command c) = (w.run r c).2 := rfl

/-- One effect adds its command to the record. -/
theorem calls_perform (w : World σ) (effect : Effect) :
    (effect.perform r w).calls = w.calls ++ effect.command?.toList := by
  cases effect with
  | command c => rfl
  | makeDirs dir => simp [perform, command?]

/-- Effects add their commands to the record, in their order. -/
theorem calls_performAll (w : World σ) :
    (performAll r w effects).calls = w.calls ++ effects.filterMap command? := by
  induction effects generalizing w with
  | nil => simp [performAll]
  | cons effect effects ih =>
      rw [performAll, List.foldl_cons, ← performAll, ih, calls_perform, List.filterMap_cons]
      cases effect.command? <;> simp

/-- Unless the runner changes files, the file system grows by nothing but the one directory that the
effects make. -/
theorem grown_performAll (hrunner : ∀ c files memory, (r.answer c files memory).2.1 = files)
    {dir : Path} (hdir : ∀ dir', makeDirs dir' ∈ effects → dir' = dir) (w : World σ) :
    FileSystem.Grown (FileSystem.ancestry dir) w.files (performAll r w effects).files := by
  induction effects generalizing w with
  | nil => exact .refl _ _
  | cons effect effects ih =>
      have hrest := ih (fun dir' h ↦ hdir dir' (List.mem_cons_of_mem _ h)) (effect.perform r w)
      cases effect with
      | command c =>
          have hfiles : (perform r w (command c)).files = w.files := hrunner c w.files w.memory
          rwa [hfiles] at hrest
      | makeDirs dir' =>
          obtain rfl := hdir dir' List.mem_cons_self
          exact (FileSystem.makeDirs_grown w.files dir').trans hrest

/-- Unless the runner changes files, nothing changes without a directory that is made. -/
theorem files_performAll (hrunner : ∀ c files memory, (r.answer c files memory).2.1 = files)
    (hnone : ∀ dir, makeDirs dir ∉ effects) (w : World σ) :
    (performAll r w effects).files = w.files := by
  induction effects generalizing w with
  | nil => rfl
  | cons effect effects ih =>
      cases effect with
      | command c =>
          have hrest : ∀ dir, makeDirs dir ∉ effects :=
            fun dir h ↦ hnone dir (List.mem_cons_of_mem _ h)
          exact (ih hrest (perform r w (command c))).trans (hrunner c w.files w.memory)
      | makeDirs dir => exact absurd List.mem_cons_self (hnone dir)

end Effect

variable [CommandFault φ]

/-- `Comes r s mode roster dir w effects` says a check that starts in `w`, and that would use the
directory `dir`, comes as far as these effects. -/
inductive Comes (r : RunnerWith σ φ) (s : Settings) (mode : Mode) (roster : Roster) (dir : Path)
    (w : World σ) : List Effect → Prop where
  | nowhere :
      mode = .disabled ∨ r.locates w.files s.emulator.program = false →
      Comes r s mode roster dir w []
  | listing (e after) :
      mode ≠ .disabled → r.locates w.files s.emulator.program = true →
      preflight r s w = (.error e, after) →
      Comes r s mode roster dir w [.command (Emulator.listJobs s)]
  | making (listed fault made) :
      mode ≠ .disabled → preflight r s w = (.ok (), listed) →
      listed.files.makeDirs dir = (.error fault, made) →
      Comes r s mode roster dir w [.command (Emulator.listJobs s), .makeDirs dir]
  | running (listed made) :
      mode ≠ .disabled → preflight r s w = (.ok (), listed) →
      listed.files.makeDirs dir = (.ok (), made) →
      Comes r s mode roster dir w
        [.command (Emulator.listJobs s), .makeDirs dir, .command (Emulator.runJob s roster dir)]

section Course

variable {r : RunnerWith σ φ} {s : Settings} {mode : Mode} {roster : Roster}
  {dir artifactRoot : Path} {runId : String} {w listed : World σ} {effects : List Effect}

/-- The answer to the listing passes exactly if it is an output with exit code zero. -/
theorem verdict_eq_ok_iff {c : Command} {reply : Except φ Output} :
    verdict s c reply = .ok () ↔ ∃ listing, reply = .ok listing ∧ listing.exitCode = some 0 := by
  cases reply with
  | error fault => simp [verdict]
  | ok listing =>
      simp only [verdict, Except.ok.injEq, exists_eq_left', ← Output.succeeded_iff]
      split
      · next h => simp [h]
      · next h => simp [h]

/-- A preflight passes exactly if the emulator is located and answers the listing of its jobs with
exit code zero. -/
theorem preflight_eq_ok_iff :
    preflight r s w = (.ok (), listed) ↔
      r.locates w.files s.emulator.program = true ∧
      ∃ listing files memory,
        r.answer (Emulator.listJobs s) w.files w.memory = (.ok listing, files, memory) ∧
        listing.exitCode = some 0 ∧
        listed = ⟨files, memory, w.calls ++ [Emulator.listJobs s]⟩ := by
  unfold preflight
  split
  · next hlocated =>
      rw [and_iff_right hlocated]
      constructor
      · intro h
        obtain ⟨hverdict, hworld⟩ := Prod.mk.inj h
        obtain ⟨listing, hreply, hexit⟩ := verdict_eq_ok_iff.mp hverdict
        obtain ⟨files, memory, hanswer, rfl⟩ := World.run_eq_iff.mp (Prod.ext hreply hworld)
        exact ⟨listing, files, memory, hanswer, hexit, rfl⟩
      · rintro ⟨listing, files, memory, hanswer, hexit, rfl⟩
        simp only [World.run_eq_iff.mpr ⟨files, memory, hanswer, rfl⟩, Prod.mk.injEq, and_true]
        exact verdict_eq_ok_iff.mpr ⟨listing, rfl, hexit⟩
  · next hmissing => simp [hmissing]

/-- A preflight of an emulator that is located leaves what the listing of the jobs leaves. -/
theorem preflight_world (h : r.locates w.files s.emulator.program = true) :
    (preflight r s w).2 = Effect.perform r w (.command (Emulator.listJobs s)) := by
  rw [preflight, if_pos h, Effect.perform_command]

/-- A preflight of an emulator that is not located leaves everything as it is. -/
theorem preflight_of_missing (h : r.locates w.files s.emulator.program = false) :
    ∃ e, preflight r s w = (.error e, w) := by
  rw [preflight, if_neg (by simp [h])]
  exact ⟨_, rfl⟩

/-- A run of the job is never skipped. -/
theorem runJob_ne_skipped {reason : String} :
    (runJob r s roster dir w).1 ≠ .ok (.skipped reason) := by
  rw [runJob]
  rcases w.run r (Emulator.runJob s roster dir) with ⟨fault | o, after⟩
  · simp
  · dsimp only
    cases judge after.files o dir s.emulator.forbiddenSignatures <;> simp [Except.map]

/-- Every check comes as far as some of its effects, and leaves what they make of its world. -/
theorem comes_complete (r : RunnerWith σ φ) (s : Settings) (mode : Mode) (roster : Roster)
    (artifactRoot : Path) (runId : String) (w : World σ) :
    ∃ effects, Comes r s mode roster (artifactDir artifactRoot runId) w effects ∧
      (check r s mode roster artifactRoot runId w).2 = Effect.performAll r w effects := by
  by_cases hmode : mode = .disabled
  · subst hmode
    exact ⟨_, .nowhere (Or.inl rfl), rfl⟩
  cases hlocated : r.locates w.files s.emulator.program with
  | false =>
      obtain ⟨e, hpreflight⟩ := preflight_of_missing hlocated
      refine ⟨_, .nowhere (Or.inr hlocated), ?_⟩
      rw [check_of_preflight_error hmode hpreflight]
      rfl
  | true =>
      -- From here on every ending has handed over the listing, whatever it answered.
      have hworld := preflight_world hlocated
      rcases hpreflight : preflight r s w with ⟨e | _, listed⟩
      · refine ⟨_, .listing e listed hmode hlocated hpreflight, ?_⟩
        rw [check_of_preflight_error hmode hpreflight]
        rwa [hpreflight] at hworld
      · rw [hpreflight] at hworld
        rw [check_of_preflight_ok hmode hpreflight, runFresh]
        rcases hmade : listed.files.makeDirs (artifactDir artifactRoot runId) with ⟨fault | _, made⟩
        · refine ⟨_, .making listed fault made hmode hpreflight hmade, ?_⟩
          rw [Effect.performAll, List.foldl_cons, ← hworld, List.foldl_cons, Effect.perform, hmade]
          rfl
        · refine ⟨_, .running listed made hmode hpreflight hmade, ?_⟩
          rw [Effect.performAll, List.foldl_cons, ← hworld, List.foldl_cons, Effect.perform, hmade,
            runJob_world]
          rfl

/-- A check comes as far as a beginning of all its effects. -/
theorem Comes.isPrefix (h : Comes r s mode roster dir w effects) :
    effects <+: [.command (Emulator.listJobs s), .makeDirs dir,
      .command (Emulator.runJob s roster dir)] := by
  cases h with
  | nowhere => exact List.nil_prefix
  | listing => exact ⟨_, rfl⟩
  | making => exact ⟨_, rfl⟩
  | running => exact List.prefix_refl _

/-- A check comes nowhere exactly if it is disabled or its emulator is not located. -/
theorem Comes.eq_nil_iff (h : Comes r s mode roster dir w effects) :
    effects = [] ↔ mode = .disabled ∨ r.locates w.files s.emulator.program = false := by
  have hlocated {listed : World σ} (hpreflight : preflight r s w = (.ok (), listed)) :=
    (preflight_eq_ok_iff.mp hpreflight).1
  cases h with
  | nowhere hnowhere => simp [hnowhere]
  | listing e after hmode hlocated => simp [hmode, hlocated]
  | making listed fault made hmode hpreflight => simp [hmode, hlocated hpreflight]
  | running listed made hmode hpreflight => simp [hmode, hlocated hpreflight]

/-- The commands among the effects of a check are none, the listing, or the listing and the job. -/
theorem Comes.commands_cases (h : Comes r s mode roster dir w effects) :
    effects.filterMap Effect.command? = [] ∨
    effects.filterMap Effect.command? = [Emulator.listJobs s] ∨
    effects.filterMap Effect.command? = [Emulator.listJobs s, Emulator.runJob s roster dir] := by
  cases h with
  | nowhere => exact Or.inl rfl
  | listing | making => exact Or.inr (Or.inl rfl)
  | running => exact Or.inr (Or.inr rfl)

/-- A check hands over no command exactly if it comes nowhere. -/
theorem Comes.commands_eq_nil_iff (h : Comes r s mode roster dir w effects) :
    effects.filterMap Effect.command? = [] ↔ effects = [] := by
  cases h <;> simp [Effect.command?]

/-- A check hands over two commands exactly if it comes to all of its effects. -/
theorem Comes.commands_eq_iff (h : Comes r s mode roster dir w effects) :
    effects.filterMap Effect.command? = [Emulator.listJobs s, Emulator.runJob s roster dir] ↔
      effects.length = 3 := by
  cases h with
  | nowhere | listing | making =>
      exact iff_of_false (by simp [List.filterMap, Effect.command?]) (by simp)
  | running => exact iff_of_true rfl rfl

/-- No preflight passes where a check comes nowhere. -/
theorem not_passed_of_nowhere
    (h : mode = .disabled ∨ r.locates w.files s.emulator.program = false) :
    ¬ (mode ≠ .disabled ∧ (preflight r s w).1 = .ok ()) := by
  rintro ⟨hmode, hpassed⟩
  obtain ⟨e, he⟩ := preflight_of_missing (h.resolve_left hmode)
  rw [he] at hpassed
  cases hpassed

/-- A check makes its directory exactly if it is not disabled and its preflight passes. -/
theorem Comes.makeDirs_mem_iff (h : Comes r s mode roster dir w effects) :
    .makeDirs dir ∈ effects ↔ mode ≠ .disabled ∧ (preflight r s w).1 = .ok () := by
  cases h with
  | nowhere hnowhere => exact iff_of_false (by simp) (not_passed_of_nowhere hnowhere)
  | listing e after hmode hlocated hpreflight => simp [hpreflight]
  | making listed fault made hmode hpreflight => simp [hmode, hpreflight]
  | running listed made hmode hpreflight => simp [hmode, hpreflight]

/-- What a preflight that passes and a directory that can be made after it come down to. -/
theorem passed_and_made_iff :
    (∃ listed made, preflight r s w = (.ok (), listed) ∧
      listed.files.makeDirs dir = (.ok (), made)) ↔
    r.locates w.files s.emulator.program = true ∧
      ∃ listing files memory made,
        r.answer (Emulator.listJobs s) w.files w.memory = (.ok listing, files, memory) ∧
        listing.exitCode = some 0 ∧ files.makeDirs dir = (.ok (), made) := by
  simp only [preflight_eq_ok_iff]
  constructor
  · rintro ⟨_, made, ⟨hlocated, listing, files, memory, hanswer, hexit, rfl⟩, hmade⟩
    exact ⟨hlocated, listing, files, memory, made, hanswer, hexit, hmade⟩
  · rintro ⟨hlocated, listing, files, memory, made, hanswer, hexit, hmade⟩
    exact ⟨_, made, ⟨hlocated, listing, files, memory, hanswer, hexit, rfl⟩, hmade⟩

/-- A check comes to all of its effects exactly if the emulator is located, answers the listing of
its jobs with exit code zero, and the directory can be made. -/
theorem Comes.length_eq_iff (h : Comes r s mode roster dir w effects) :
    effects.length = 3 ↔ mode ≠ .disabled ∧ r.locates w.files s.emulator.program = true ∧
      ∃ listing files memory made,
        r.answer (Emulator.listJobs s) w.files w.memory = (.ok listing, files, memory) ∧
        listing.exitCode = some 0 ∧ files.makeDirs dir = (.ok (), made) := by
  rw [← passed_and_made_iff]
  cases h with
  | nowhere hnowhere =>
      refine iff_of_false (by simp) ?_
      rintro ⟨hmode, listed, made, hpreflight, -⟩
      exact not_passed_of_nowhere hnowhere ⟨hmode, by rw [hpreflight]⟩
  | listing e after hmode hlocated hpreflight => simp [hpreflight]
  | making listed fault made hmode hpreflight hmade => simp [hpreflight, hmade]
  | running listed made hmode hpreflight hmade => simp [hmode, hpreflight, hmade]

/-- A check that is skipped makes no directory. -/
theorem Comes.not_mem_of_skipped {reason : String}
    (h : Comes r s mode roster (artifactDir artifactRoot runId) w effects)
    (hskipped : (check r s mode roster artifactRoot runId w).1 = .ok (.skipped reason)) :
    .makeDirs (artifactDir artifactRoot runId) ∉ effects := by
  cases h with
  | nowhere | listing => simp
  | making listed fault made hmode hpreflight hmade =>
      rw [check_of_preflight_ok hmode hpreflight, runFresh, hmade] at hskipped
      cases hskipped
  | running listed made hmode hpreflight hmade =>
      rw [check_of_preflight_ok hmode hpreflight, runFresh, hmade] at hskipped
      exact absurd hskipped runJob_ne_skipped

end Course

/-- The name of the directory for artifacts is one step of a path if the name of the run has no
slash. -/
theorem isStepName_artifactDir {runId : String} (h : '/' ∉ runId.toList) :
    Path.IsStepName ("act-artifacts-" ++ runId) := by
  have hchars : ("act-artifacts-" ++ runId).toList = "act-artifacts-".toList ++ runId.toList :=
    String.toList_append
  refine ⟨?_, ?_, ?_, ?_⟩
  · rw [hchars, List.mem_append, not_or]
    exact ⟨by decide, h⟩
  all_goals
    intro heq
    have := congrArg (·.toList.take 2) heq
    rw [hchars] at this
    simp at this

/-- The directory for artifacts is given by a text. -/
theorem artifactDir_text_ne (artifactRoot : Path) (runId : String) :
    (artifactDir artifactRoot runId).text ≠ "" := by
  have hname : ("act-artifacts-" ++ runId).toList.head? ≠ some '/' := by simp
  obtain ⟨gap, htext, -⟩ := artifactRoot.text_child hname
  rw [artifactDir, htext]
  simp

/-- `Footprint r s mode roster dir w result after effects` says what a check did to its world, if it
started in `w`, answered `result` and left `after`. -/
structure Footprint (r : RunnerWith σ φ) (s : Settings) (mode : Mode) (roster : Roster) (dir : Path)
    (w : World σ) (result : Except Error Outcome) (after : World σ) (effects : List Effect) :
    Prop where
  /-- The effects come in one order. -/
  order : effects <+: [.command (Emulator.listJobs s), .makeDirs dir,
    .command (Emulator.runJob s roster dir)]
  /-- The effects are all that happened. -/
  world : after = Effect.performAll r w effects
  /-- The runner was handed nothing, the listing, or the listing and the job. -/
  calls : after.calls = w.calls ∨ after.calls = w.calls ++ [Emulator.listJobs s] ∨
    after.calls = w.calls ++ [Emulator.listJobs s, Emulator.runJob s roster dir]
  /-- It was handed nothing exactly if the check is disabled or the emulator is not located. -/
  nothing_iff : after.calls = w.calls ↔
    mode = .disabled ∨ r.locates w.files s.emulator.program = false
  /-- It was handed the job exactly if it answered the listing with exit code zero and the directory
  was made before. -/
  job_iff : after.calls = w.calls ++ [Emulator.listJobs s, Emulator.runJob s roster dir] ↔
    mode ≠ .disabled ∧ r.locates w.files s.emulator.program = true ∧
      ∃ listing files memory made,
        r.answer (Emulator.listJobs s) w.files w.memory = (.ok listing, files, memory) ∧
        listing.exitCode = some 0 ∧ files.makeDirs dir = (.ok (), made)
  /-- Making the directory was tried exactly if the preflight passed. -/
  tried_iff : .makeDirs dir ∈ effects ↔ mode ≠ .disabled ∧ (preflight r s w).1 = .ok ()
  /-- A check that is skipped did not try to make the directory. -/
  skipped : ∀ reason, result = .ok (.skipped reason) → .makeDirs dir ∉ effects
  /-- What the runner did not change is as it was, apart from the directory that was made. -/
  frame : (∀ c files memory, (r.answer c files memory).2.1 = files) →
    FileSystem.Grown (FileSystem.ancestry dir) w.files after.files ∧
      (.makeDirs dir ∉ effects → after.files = w.files)

/-- A check leaves the footprint of the effects that it comes to. -/
theorem Comes.footprint {r : RunnerWith σ φ} {s : Settings} {mode : Mode} {roster : Roster}
    {artifactRoot : Path} {runId : String} {w : World σ} {effects : List Effect}
    {result : Except Error Outcome} {after : World σ}
    (h : Comes r s mode roster (artifactDir artifactRoot runId) w effects)
    (hcheck : check r s mode roster artifactRoot runId w = (result, after))
    (hafter : after = Effect.performAll r w effects) :
    Footprint r s mode roster (artifactDir artifactRoot runId) w result after effects := by
  have hcalls : after.calls = w.calls ++ effects.filterMap Effect.command? := by
    rw [hafter, Effect.calls_performAll]
  have hmade : ∀ dir, .makeDirs dir ∈ effects → dir = artifactDir artifactRoot runId := by
    intro dir hmem
    simpa using h.isPrefix.subset hmem
  refine ⟨h.isPrefix, hafter, ?_, ?_, ?_, h.makeDirs_mem_iff, ?_,
    fun hrunner ↦ ⟨?_, fun hnone ↦ ?_⟩⟩
  · rw [hcalls]
    obtain hnone | hlisting | hjob := h.commands_cases
    · exact Or.inl (by rw [hnone, List.append_nil])
    · exact Or.inr (Or.inl (by rw [hlisting]))
    · exact Or.inr (Or.inr (by rw [hjob]))
  · rw [hcalls, List.append_right_eq_self, h.commands_eq_nil_iff, h.eq_nil_iff]
  · rw [hcalls, List.append_cancel_left_eq, h.commands_eq_iff, h.length_eq_iff]
  · intro reason hskipped
    exact h.not_mem_of_skipped (by rw [hcheck]; exact hskipped)
  · rw [hafter]
    exact Effect.grown_performAll hrunner hmade w
  · rw [hafter]
    exact Effect.files_performAll hrunner (fun dir hmem ↦ hnone (hmade dir hmem ▸ hmem)) w

/-- Every check leaves a footprint: it hands over the listing of the jobs, makes the directory for
the artifacts and hands over the job, in this order and no further than its conditions allow. The
directory is the one that the job's command names behind the flag for artifacts. Making it takes
nothing away and adds directories to which its path and the beginnings of the artifact root lead,
whether it can be made or not, and it is there if it can. -/
theorem check_effects (r : RunnerWith σ φ) (s : Settings) (mode : Mode) (roster : Roster)
    (artifactRoot : Path) (runId : String) (w : World σ) :
    ∃ dir, dir = artifactDir artifactRoot runId ∧
      (∃ effects, Footprint r s mode roster dir w
        (check r s mode roster artifactRoot runId w).1
        (check r s mode roster artifactRoot runId w).2 effects) ∧
      (∃ later, (Emulator.runJob s roster dir).args =
        (Emulator.eventArgs s ++ Emulator.jobArgs s ++ Emulator.platformArgs s) ++
          Emulator.artifactFlag :: dir.text :: later) ∧
      (∀ files, FileSystem.Grown (FileSystem.ancestry dir) files (files.makeDirs dir).2) ∧
      (∀ files made : FileSystem, files.makeDirs dir = (.ok (), made) → made.isDir dir = true) ∧
      ('/' ∉ runId.toList → ∀ p ∈ FileSystem.ancestry dir, p = dir ∨
        ∃ kept, kept ≠ [] ∧ kept <+: artifactRoot.components ∧ p = .ofComponents kept) := by
  obtain ⟨effects, hcomes, hafter⟩ := comes_complete r s mode roster artifactRoot runId w
  refine ⟨_, rfl, ⟨effects, hcomes.footprint rfl hafter⟩, ⟨_, runJob_args s roster _⟩, ?_, ?_, ?_⟩
  · exact fun files ↦ FileSystem.makeDirs_grown files _
  · exact fun _ _ ↦ FileSystem.isDir_of_makeDirs (artifactDir_text_ne artifactRoot runId)
  · exact fun hname _ ↦ FileSystem.mem_ancestry_child (isStepName_artifactDir hname)

open Trial in
/-- The trial's emulator is handed both commands, the job with a directory that was made before and
that stands in `out`. An emulator that is not located is handed nothing. -/
theorem check_effects_trial :
    (check (emulator quiet (.dir .empty)) settings .required roster ⟨"out"⟩ "0badc0de"
      world).2.calls = [Emulator.listJobs settings, Emulator.runJob settings roster dir] ∧
    started.files.isDir dir = true ∧
    (∀ p ∈ FileSystem.ancestry dir, p = dir ∨ p = ⟨"out"⟩) ∧
    (check { emulator quiet (.dir .empty) with locates := fun _ _ ↦ false } settings .opportunistic
      roster ⟨"out"⟩ "0badc0de" world).2.calls = [] := by
  obtain ⟨_, hdir, ⟨effects, hfootprint⟩, -, -, hmade, habove⟩ :=
    check_effects (emulator quiet (.dir .empty)) settings .required roster ⟨"out"⟩ "0badc0de" world
  obtain ⟨_, hdir', ⟨effects', hmissing⟩, -⟩ :=
    check_effects { emulator quiet (.dir .empty) with locates := fun _ _ ↦ false } settings
      .opportunistic roster ⟨"out"⟩ "0badc0de" world
  rw [artifactDir_eq] at hdir hdir'
  subst hdir hdir'
  refine ⟨?_, hmade _ _ makeDirs_dir, ?_, ?_⟩
  · have hstarted := job_started quiet (.dir .empty)
    generalize started = begun at hstarted
    cases hstarted with
    | intro listing files memory made hlocated hanswer hexit hmade =>
        exact hfootprint.job_iff.mpr
          ⟨by simp, hlocated, listing, files, memory, made, hanswer, hexit, hmade⟩
  · intro p hp
    refine (habove (by decide) p hp).imp_right ?_
    rintro ⟨kept, hne, hkept, rfl⟩
    have hsteps : Path.components ⟨"out"⟩ = [.name "out"] := by decide
    rw [hsteps] at hkept
    obtain ⟨rest, rfl, hrest⟩ := (List.prefix_cons_iff.mp hkept).resolve_left hne
    rw [List.prefix_nil.mp hrest]
    decide
  · exact hmissing.nothing_iff.mpr (Or.inr rfl)

end LintRoster.Smoke
