import LintRoster.Proofs.FileSystem.Child
import LintRoster.Proofs.Smoke.Effects

/-!
# One run among others

`Run.Meets` says what a smoke check meets outside of it: whether its emulator is located, what its
commands are answered, and what the job leaves at the directory of the run, which is the only place
where it changes anything. `Run.Step` says what the check comes to then. Two checks that meet the
same come to the same result, wherever they do, unless a link was left; that is `Run.Step.agree`.
-/

namespace LintRoster

namespace Smoke

variable {σ τ : Type}

/-- A smoke check that is to be run, with the name that is drawn for its directory. -/
structure Run (σ : Type) where
  runner : Runner σ
  settings : Settings
  mode : Mode
  roster : Roster
  runId : String

/-- What a run meets: whether its emulator is located, the answers to its two commands, and what
stands at its directory after the job. -/
structure Encounter where
  located : Bool
  listing : Except RunFault Output
  job : Except RunFault Output
  left : Option Node

/-- What a run with these settings makes of the listing of its jobs. -/
def Encounter.readiness (met : Encounter) (s : Settings) : Except Error Unit :=
  if met.located then verdict s (Emulator.listJobs s) met.listing
  else .error (.emulatorUnavailable ("`" ++ s.emulator.program ++ "` was not found on PATH"))

namespace Run

/-- The name of the directory of a run. -/
def name (run : Run σ) : String := "act-artifacts-" ++ run.runId

/-- The path of the directory of a run. -/
def dir (run : Run σ) (artifactRoot : Path) : Path := artifactDir artifactRoot run.runId

/-- Runs the check. -/
def check (run : Run σ) (artifactRoot : Path) (w : World σ) : Except Error Outcome × World σ :=
  Smoke.check run.runner run.settings run.mode run.roster artifactRoot run.runId w

/-- The same run with another runner. -/
def withRunner (run : Run σ) (r : Runner τ) : Run τ :=
  { run with runner := r }

/-- `run.Leaves place before met after` says a job that began with the files `before` ended with the
files `after`: it changed nothing but what stands at or below the directory of the run, where it
left what the run meets there. The names in the tree can all be steps of paths. -/
structure Leaves (run : Run σ) (place : List String) (before : FileSystem) (met : Encounter)
    (after : FileSystem) : Prop where
  cwd : after.cwd = before.cwd
  outside : Directory.AgreeOutside (place ++ [run.name]) before.root after.root
  left : after.root.find? (place ++ [run.name]) = met.left
  named : (Node.dir after.root).Named

/-- `run.Meets artifactRoot place w met` says what a run meets that starts in `w`, if the artifact
root stands at `place`. The listing of its jobs changes no file. -/
structure Meets (run : Run σ) (artifactRoot : Path) (place : List String) (w : World σ)
    (met : Encounter) : Prop where
  located : run.runner.locates w.files run.settings.emulator.program = met.located
  listing : met.located = true →
    (w.run run.runner (Emulator.listJobs run.settings)).1 = met.listing ∧
      (w.run run.runner (Emulator.listJobs run.settings)).2.files = w.files
  job : ∀ started, JobStarted run.runner run.settings (run.dir artifactRoot) w started →
    (started.run run.runner
      (Emulator.runJob run.settings run.roster (run.dir artifactRoot))).1 = met.job ∧
    run.Leaves place started.files met (started.run run.runner
      (Emulator.runJob run.settings run.roster (run.dir artifactRoot))).2.files

/-- `run.Step artifactRoot place files met result after` says what a run comes to, if it starts with
`files`: its result, and the files after it. Only a job changes files, and only if nothing stood at
the directory of the run before. -/
inductive Step (run : Run σ) (artifactRoot : Path) (place : List String) (files : FileSystem)
    (met : Encounter) : Except Error Outcome → FileSystem → Prop where
  | disabled :
      run.mode = .disabled →
      Step run artifactRoot place files met
        (.ok (.skipped (disabledReason run.settings.emulator))) files
  | unready (e) :
      run.mode ≠ .disabled → met.readiness run.settings = .error e →
      Step run artifactRoot place files met (unusable run.mode e) files
  | unmade (fault) :
      run.mode ≠ .disabled → met.readiness run.settings = .ok () →
      FileSystem.childFault? artifactRoot run.name = some fault →
      Step run artifactRoot place files met (.error (.io fault)) files
  | faulted (fault after) :
      run.mode ≠ .disabled → met.readiness run.settings = .ok () →
      FileSystem.childFault? artifactRoot run.name = none →
      files.root.find? (place ++ [run.name]) = none → run.Leaves place files met after →
      met.job = .error fault →
      Step run artifactRoot place files met
        (.error (fault.toError
          (Emulator.runJob run.settings run.roster (run.dir artifactRoot)))) after
  | judged (o after) :
      run.mode ≠ .disabled → met.readiness run.settings = .ok () →
      FileSystem.childFault? artifactRoot run.name = none →
      files.root.find? (place ++ [run.name]) = none → run.Leaves place files met after →
      met.job = .ok o →
      Step run artifactRoot place files met
        ((judge after o (run.dir artifactRoot)
          run.settings.emulator.forbiddenSignatures).map .passed) after

section

variable {run : Run σ} {artifactRoot : Path} {place : List String} {w : World σ} {met : Encounter}
  {entries : Directory} {files after : FileSystem} {result : Except Error Outcome} {report : Report}

/-- The preflight of a run ends as the listing of its jobs says, and leaves the files alone. -/
theorem Meets.preflight_eq (h : run.Meets artifactRoot place w met) :
    ∃ listed, preflight run.runner run.settings w = (met.readiness run.settings, listed) ∧
      listed.files = w.files := by
  unfold preflight Encounter.readiness
  rw [h.located]
  split
  · next hlocated =>
      obtain ⟨hreply, hfiles⟩ := h.listing hlocated
      exact ⟨_, Prod.ext (by rw [← hreply]) rfl, hfiles⟩
  · exact ⟨w, rfl, rfl⟩

/-- A directory that is made for a run is a change at its place. -/
theorem Leaves.of_made
    (h : run.Leaves place (files.put (place ++ [run.name]) (.dir .empty)) met after) :
    run.Leaves place files met after where
  cwd := h.cwd
  outside := Directory.agreeOutside_alterAt.trans h.outside
  left := h.left
  named := h.named

/-- Every run that meets something comes to a step, if nothing stands at its directory when it is
made. -/
theorem step_complete (hname : Path.IsStepName run.name)
    (hopens : w.files.Opens artifactRoot place entries)
    (hmeets : run.mode ≠ .disabled → run.Meets artifactRoot place w met)
    (hfree : run.mode ≠ .disabled → met.readiness run.settings = .ok () →
      w.files.root.find? (place ++ [run.name]) = none) :
    run.Step artifactRoot place w.files met (run.check artifactRoot w).1
      (run.check artifactRoot w).2.files := by
  unfold check
  by_cases hmode : run.mode = .disabled
  · have hcheck : Smoke.check run.runner run.settings run.mode run.roster artifactRoot run.runId w =
        (.ok (.skipped (disabledReason run.settings.emulator)), w) := by rw [hmode]; rfl
    rw [hcheck]
    exact .disabled hmode
  have hmet := hmeets hmode
  obtain ⟨⟨listed, memory, calls⟩, hpreflight, rfl⟩ := hmet.preflight_eq
  cases hready : met.readiness run.settings with
  | error e =>
      rw [hready] at hpreflight
      rw [check_of_preflight_error hmode hpreflight]
      exact .unready e hmode hready
  | ok =>
      have habsent := hfree hmode hready
      have hmade := hopens.makeDirs_child hname habsent
      rw [hready] at hpreflight
      rw [check_of_preflight_ok hmode hpreflight, runFresh]
      cases hfault : FileSystem.childFault? artifactRoot run.name with
      | some fault =>
          rw [hfault] at hmade
          have hunmade : w.files.makeDirs (artifactDir artifactRoot run.runId) =
              (.error fault, w.files) := hmade
          rw [hunmade]
          exact .unmade fault hmode hready hfault
      | none =>
          rw [hfault] at hmade
          have hdone : w.files.makeDirs (artifactDir artifactRoot run.runId) =
              (.ok (), w.files.put (place ++ [run.name]) (.dir .empty)) := hmade
          obtain ⟨hreply, hleaves⟩ := hmet.job _
            (job_started_iff.mpr ⟨_, _, preflight_iff.mpr hpreflight, hdone, rfl⟩)
          rw [hdone]
          dsimp only at hleaves ⊢
          rw [runJob]
          -- The runner's reply decides the result; the files are those that it leaves either way.
          rcases hrun : World.run run.runner (Emulator.runJob run.settings run.roster
            (artifactDir artifactRoot run.runId)) _ with ⟨fault | o, after⟩
          · rw [dir, hrun] at hreply hleaves
            exact .faulted fault _ hmode hready hfault habsent hleaves.of_made hreply.symm
          · rw [dir, hrun] at hreply hleaves
            exact .judged o _ hmode hready hfault habsent hleaves.of_made hreply.symm

/-- A step takes nothing away that stood anywhere before. -/
theorem Step.within (h : run.Step artifactRoot place files met result after) :
    files.root.Within after.root ∧ after.cwd = files.cwd := by
  cases h with
  | disabled | unready | unmade => exact ⟨.refl _, rfl⟩
  | faulted _ _ _ _ _ hfree hleaves | judged _ _ _ _ _ hfree hleaves =>
      exact ⟨hleaves.outside.within hfree, hleaves.cwd⟩

/-- A judgement depends on nothing but what the walk of its directory starts at. -/
theorem judge_congr {other : FileSystem} {dir : Path} {o : Output} {signatures : List String}
    (h : other.walkStart? dir = files.walkStart? dir) :
    judge other o dir signatures = judge files o dir signatures := by
  unfold judge
  rw [FileSystem.listFiles_congr h]

/-- The walk of a run's directory starts at what the job left there, unless that is a link. -/
theorem Leaves.walkStart?_eq (h : run.Leaves place files met after)
    (hname : Path.IsStepName run.name) (hopens : files.Opens artifactRoot place entries)
    (hfault : FileSystem.childFault? artifactRoot run.name = none)
    (hfree : files.root.find? (place ++ [run.name]) = none)
    (hlink : ∀ text, met.left ≠ some (.link text)) :
    after.walkStart? (run.dir artifactRoot) = met.left := by
  obtain ⟨_, hopens'⟩ := hopens.within h.cwd (h.outside.within hfree)
  rw [← h.left] at hlink ⊢
  exact hopens'.walkStart?_child hname hfault hlink

/-- Two runs that meet the same come to the same result, wherever they do, unless a link was left.
-/
theorem Step.agree {r : Runner τ} {elsewhere : List String} {entries' : Directory}
    {files' after' : FileSystem} {result' : Except Error Outcome}
    (h : run.Step artifactRoot place files met result after)
    (h' : (run.withRunner r).Step artifactRoot elsewhere files' met result' after')
    (hname : Path.IsStepName run.name)
    (hopens : files.Opens artifactRoot place entries)
    (hopens' : files'.Opens artifactRoot elsewhere entries')
    (hlink : ∀ text, met.left ≠ some (.link text)) : result' = result := by
  cases h with
  | disabled hmode =>
      cases h' with
      | disabled => rfl
      | unready _ hmode' | unmade _ hmode' | faulted _ _ hmode' | judged _ _ hmode' =>
          exact absurd hmode hmode'
  | unready e hmode hready =>
      cases h' with
      | disabled hmode' => exact absurd hmode' hmode
      | unready e' _ hready' =>
          cases hready.symm.trans hready'
          rfl
      | unmade _ _ hready' | faulted _ _ _ hready' | judged _ _ _ hready' =>
          cases hready.symm.trans hready'
  | unmade fault hmode hready hfault =>
      cases h' with
      | disabled hmode' => exact absurd hmode' hmode
      | unready _ _ hready' => cases hready.symm.trans hready'
      | unmade fault' _ _ hfault' =>
          cases hfault.symm.trans hfault'
          rfl
      | faulted _ _ _ _ hfault' | judged _ _ _ _ hfault' => cases hfault.symm.trans hfault'
  | faulted fault _ hmode hready hfault hfree hleaves hjob =>
      cases h' with
      | disabled hmode' => exact absurd hmode' hmode
      | unready _ _ hready' => cases hready.symm.trans hready'
      | unmade _ _ _ hfault' => cases hfault.symm.trans hfault'
      | faulted _ _ _ _ _ _ _ hjob' =>
          cases hjob.symm.trans hjob'
          rfl
      | judged _ _ _ _ _ _ _ hjob' => cases hjob.symm.trans hjob'
  | judged o _ hmode hready hfault hfree hleaves hjob =>
      cases h' with
      | disabled hmode' => exact absurd hmode' hmode
      | unready _ _ hready' => cases hready.symm.trans hready'
      | unmade _ _ _ hfault' => cases hfault.symm.trans hfault'
      | faulted _ _ _ _ _ _ _ hjob' => cases hjob.symm.trans hjob'
      | judged _ _ _ _ _ hfree' hleaves' hjob' =>
          cases hjob.symm.trans hjob'
          -- Both walks start at what was left, so both judgements see the same files.
          have hstart := hleaves.walkStart?_eq hname hopens hfault hfree hlink
          have hstart' := hleaves'.walkStart?_eq hname hopens' hfault hfree' hlink
          exact congrArg _ (judge_congr (hstart'.trans hstart.symm))

/-- A run that passed was judged by files that its job left. -/
theorem Step.passed_spec (h : run.Step artifactRoot place files met (.ok (.passed report)) after) :
    FileSystem.childFault? artifactRoot run.name = none ∧
      files.root.find? (place ++ [run.name]) = none ∧ run.Leaves place files met after ∧
      report.artifacts = after.regularFiles (run.dir artifactRoot) ∧ report.artifacts ≠ [] := by
  generalize hresult : Except.ok (Outcome.passed report) = result at h
  cases h with
  | disabled | unmade | faulted => cases hresult
  | unready e =>
      unfold unusable at hresult
      split at hresult <;> cases hresult
  | judged o _ _ _ hfault hfree hleaves =>
      cases hjudged : judge after o (run.dir artifactRoot)
        run.settings.emulator.forbiddenSignatures with
      | error e =>
          rw [hjudged] at hresult
          cases hresult
      | ok judged =>
          rw [hjudged] at hresult
          cases hresult
          obtain ⟨haccepted, -, -⟩ := judge_eq_ok_iff.mp hjudged
          have hshown := FileSystem.regularFiles_of_listFiles haccepted.listed
          refine ⟨hfault, hfree, hleaves, hshown.symm, ?_⟩
          exact hshown ▸ FileSystem.regularFiles_ne_nil.mpr haccepted.holds

/-- A run that passed and left no link left a regular file. -/
theorem Step.exported (h : run.Step artifactRoot place files met (.ok (.passed report)) after)
    (hname : Path.IsStepName run.name) (hopens : files.Opens artifactRoot place entries)
    (hlink : ∀ text, met.left ≠ some (.link text)) :
    ∃ node names bytes executable, met.left = some node ∧
      node.Leads names (.file bytes executable) := by
  obtain ⟨hfault, hfree, hleaves, hartifacts, hsome⟩ := h.passed_spec
  obtain ⟨p, hp⟩ := List.exists_mem_of_ne_nil _ hsome
  rw [hartifacts] at hp
  obtain ⟨node, names, bytes, executable, hstart, hleads, -⟩ := FileSystem.mem_regularFiles.mp hp
  rw [hleaves.walkStart?_eq hname hopens hfault hfree hlink] at hstart
  exact ⟨node, names, bytes, executable, hstart, hleads⟩

/-- A run that can use its emulator is not skipped. -/
theorem Step.ne_skipped {reason : String} (h : run.Step artifactRoot place files met result after)
    (hmode : run.mode ≠ .disabled) (hready : met.readiness run.settings = .ok ()) :
    result ≠ .ok (.skipped reason) := by
  cases h with
  | disabled hdisabled => exact absurd hdisabled hmode
  | unready e _ hunready => cases hready.symm.trans hunready
  | unmade | faulted => simp
  | judged o =>
      cases judge after o (run.dir artifactRoot) run.settings.emulator.forbiddenSignatures <;>
        simp [Except.map]

/-- A run that can use its emulator fails if it leaves neither a link nor a regular file. -/
theorem Step.failed (h : run.Step artifactRoot place files met result after)
    (hmode : run.mode ≠ .disabled) (hready : met.readiness run.settings = .ok ())
    (hname : Path.IsStepName run.name) (hopens : files.Opens artifactRoot place entries)
    (hlink : ∀ text, met.left ≠ some (.link text))
    (hbare : ∀ node names bytes executable, met.left = some node →
      ¬ node.Leads names (.file bytes executable)) :
    ∃ e, result = .error e := by
  cases result with
  | error e => exact ⟨e, rfl⟩
  | ok outcome =>
      cases outcome with
      | skipped reason => exact absurd rfl (h.ne_skipped hmode hready)
      | passed report =>
          obtain ⟨node, names, bytes, executable, hleft, hleads⟩ := h.exported hname hopens hlink
          exact absurd hleads (hbare node names bytes executable hleft)

/-- Something stands at the directory of a run that passed. -/
theorem Step.find?_ne_none (h : run.Step artifactRoot place files met (.ok (.passed report)) after)
    (hname : Path.IsStepName run.name) (hopens : files.Opens artifactRoot place entries) :
    after.root.find? (place ++ [run.name]) ≠ none := by
  obtain ⟨-, -, hleaves, -⟩ := h.passed_spec
  rw [hleaves.left]
  intro hnone
  obtain ⟨_, _, _, _, hleft, -⟩ := h.exported hname hopens (by simp [hnone])
  rw [hnone] at hleft
  cases hleft

/-- A path in the report of a run goes from the directory of the run to a file below it, or to a
file in its place. -/
theorem Step.artifact_spec (h : run.Step artifactRoot place files met (.ok (.passed report)) after)
    (hname : Path.IsStepName run.name) (hopens : files.Opens artifactRoot place entries) {p : Path}
    (hp : p ∈ report.artifacts) :
    ∃ names : List String, p = (run.dir artifactRoot).below names ∧
      p.components = (run.dir artifactRoot).components ++ names.map .name ∧
      (names = [] → ∃ bytes executable, met.left = some (.file bytes executable)) := by
  obtain ⟨hfault, hfree, hleaves, hartifacts, -⟩ := h.passed_spec
  rw [hartifacts] at hp
  obtain ⟨node, names, bytes, executable, hstart, hleads, rfl⟩ := FileSystem.mem_regularFiles.mp hp
  obtain ⟨stop, hfound⟩ := FileSystem.find?_of_walkStart? hstart
  have hnames := hleaves.named.of_find? hfound names _ hleads
  refine ⟨names, rfl, Path.components_below hnames _, ?_⟩
  rintro rfl
  cases hleads
  obtain ⟨stop', hlink⟩ := FileSystem.walkStart?_eq_file_iff.mp hstart
  obtain ⟨_, hopens'⟩ := hopens.within hleaves.cwd (hleaves.outside.within hfree)
  -- A file at the path itself is what the name of the directory leads to.
  have htarget := (hopens'.resolveWith_child hname false hfault (by simp)).symm.trans hlink
  rw [Except.ok.injEq, FileSystem.targetAt] at htarget
  split at htarget
  · cases htarget
  · next hleft =>
      cases htarget
      exact ⟨bytes, executable, hleaves.left.symm.trans hleft⟩

/-- Nothing at or below the directory of one run has the steps of something at or below that of
another. -/
theorem components_ne {other : Run τ} (hname : Path.IsStepName run.name)
    (hother : Path.IsStepName other.name) (hne : run.name ≠ other.name)
    (names names' : List String) :
    (run.dir artifactRoot).components ++ names.map .name ≠
      (other.dir artifactRoot).components ++ names'.map .name := by
  have hsteps : (run.dir artifactRoot).components = artifactRoot.components ++ [.name run.name] :=
    Path.components_child hname
  have hsteps' : (other.dir artifactRoot).components =
      artifactRoot.components ++ [.name other.name] := Path.components_child hother
  rw [hsteps, hsteps', List.append_assoc, List.append_assoc]
  intro heq
  have hhead := List.append_cancel_left heq
  simp only [List.singleton_append, List.cons.injEq, Path.Component.name.injEq] at hhead
  exact hne hhead.1

end

end Run

end Smoke

end LintRoster
