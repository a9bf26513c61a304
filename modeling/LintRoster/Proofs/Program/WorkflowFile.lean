import LintRoster.Proofs.FileSystem.Relative
import LintRoster.Proofs.Program.Gate

/-!
# The workflow that is checked is the one that is emulated

The actions read the workflow by its path below the root of the workspace. The emulator is given the
bare path and runs in that root. `emulated_workflow_is_checked` says that both are one path for
every current directory, so that what an action reads is what the emulator finds.
-/

namespace LintRoster

namespace Emulator

/-- Every command for the emulator runs in the root of the workspace and names the workflow, as the
settings do, behind its flag. -/
theorem names_workflow {s : Settings} {roster : Roster} {artifacts : Path} {c : Command}
    (h : c ∈ [listJobs s, runJob s roster artifacts]) :
    c.dir = s.root ∧
      ∃ later, c.args = s.emulator.event :: "-W" :: s.workflow.path.text :: later := by
  simp only [List.mem_cons, List.not_mem_nil, or_false] at h
  obtain rfl | rfl := h
  · exact ⟨rfl, _, rfl⟩
  · exact ⟨rfl, _, rfl⟩

end Emulator

namespace Program

variable {σ : Type} {s : Settings} {files : FileSystem} {e : Error}

/-- The roster of the settings is extracted from the text of the workflow file. -/
theorem roster_of_readText {text : String} (h : files.readText s.workflowPath = .ok text) :
    Contract.roster s files = Roster.extract text s.workflowPath s.workflow.lookup := by
  rw [Contract.roster, Roster.load, h]

/-- There is no roster exactly if the workflow file cannot be read, or nothing can be extracted from
its text. -/
theorem roster_eq_error_iff :
    Contract.roster s files = .error e ↔
      (∃ fault, files.readText s.workflowPath = .error fault ∧ e = .io fault) ∨
      ∃ text, files.readText s.workflowPath = .ok text ∧
        Roster.extract text s.workflowPath s.workflow.lookup = .error e := by
  rw [Contract.roster, Roster.load]
  cases files.readText s.workflowPath with
  | error fault => simp [eq_comm]
  | ok text => simp

/-- Whatever the current directory is, the argument with which a command for the emulator names the
workflow, read from the directory of the command, is the path by which the actions read it, and a
text that is read through the one is read through the other by a process that entered that
directory. Every action is decided by what is read there: without a text, or with one that nothing
can be extracted from, it ends with that error and does nothing else. Otherwise the roster of the
text is what `list` prints and what the commands of all others are made for. -/
theorem emulated_workflow_is_checked (s : Settings) :
    (∀ roster artifacts c, c ∈ [Emulator.listJobs s, Emulator.runJob s roster artifacts] →
      ∃ event argument later, c.args = event :: "-W" :: argument :: later ∧
        (∀ cwd : Path, (cwd.join c.dir).join ⟨argument⟩ = cwd.join s.workflowPath) ∧
        ∀ (files inside : FileSystem) (text : String), files.changeDir c.dir = .ok inside →
          files.readText s.workflowPath = .ok text → inside.readText ⟨argument⟩ = .ok text) ∧
    ∀ (r : Runner σ) (env : Surroundings) (w : World σ),
      (∀ e action,
        ((∃ fault, w.files.readText s.workflowPath = .error fault ∧ e = .io fault) ∨
          ∃ text, w.files.readText s.workflowPath = .ok text ∧
            Roster.extract text s.workflowPath s.workflow.lookup = .error e) →
        runAction r env s action w = (.failed e, w)) ∧
      ∀ text roster, w.files.readText s.workflowPath = .ok text →
        Roster.extract text s.workflowPath s.workflow.lookup = .ok roster →
        runAction r env s .list w = (.printed (lines roster.names), w) ∧
        ∀ action, ∃ dir started,
          (runAction r env s action w).2.calls = w.calls ++ started ∧
          started <+: plan s roster dir action := by
  refine ⟨?_, fun r env w ↦ ⟨?_, ?_⟩⟩
  · intro roster artifacts c hc
    obtain ⟨hdir, later, hargs⟩ := Emulator.names_workflow hc
    refine ⟨_, _, later, hargs, fun cwd ↦ ?_, fun files inside text hinside hread ↦ ?_⟩
    · rw [hdir, Path.join_assoc, Settings.workflowPath]
    · rw [hdir] at hinside
      exact FileSystem.readText_of_join hinside hread
  · intro e action h
    exact runAction_of_roster_error (roster_eq_error_iff.mpr h) action
  · intro text roster hread hextract
    have hroster : Contract.roster s w.files = .ok roster := by
      rw [roster_of_readText hread, hextract]
    refine ⟨?_, fun action ↦ calls_runAction r env hroster action⟩
    unfold runAction runList
    simp only [hroster]

namespace Trial

/-- Settings of a workspace below the current directory, with a workflow below a directory of it.
Both paths are written with more slashes than they need. -/
def nested : Settings := { root := ⟨"work//"⟩, workflow := { path := ⟨"./ci//main.yml"⟩ } }

/-- A file system with that workspace, where the directory of the workflow is behind a link. -/
def nestedFiles : FileSystem :=
  ⟨.entry "shared" (.dir (.entry "main.yml"
      (.file (Utf8.encode Contract.Trial.workflow) false) .empty))
    (.entry "work" (.dir (.entry "ci" (.link "../shared") .empty)) .empty), []⟩

end Trial

open Trial in
/-- The joined paths of the trial keep all slashes of their parts, and the emulator reads the text
that the actions extract the roster from, through a link out of the workspace. -/
theorem emulated_workflow_trial :
    nested.workflowPath = ⟨"work//./ci//main.yml"⟩ ∧
    (∃ later, (Emulator.listJobs nested).args = "workflow_dispatch" :: "-W" :: "./ci//main.yml" ::
      later) ∧
    (Path.join ⟨"/home"⟩ (Emulator.listJobs nested).dir).join ⟨"./ci//main.yml"⟩ =
      ⟨"/home/work//./ci//main.yml"⟩ ∧
    nestedFiles.readText nested.workflowPath = .ok Contract.Trial.workflow ∧
    (∃ inside, nestedFiles.changeDir (Emulator.listJobs nested).dir = .ok inside ∧
      inside.readText ⟨"./ci//main.yml"⟩ = .ok Contract.Trial.workflow) ∧
    runAction (Contract.Trial.tool ⟨some 0, "", ""⟩) surroundings nested .list
      (.new nestedFiles ()) = (.printed "beta\nalpha\nbeta\n", .new nestedFiles ()) := by
  have hread : nestedFiles.readText nested.workflowPath = .ok Contract.Trial.workflow := by
    decide +kernel
  have hextract : Roster.extract Contract.Trial.workflow nested.workflowPath
      nested.workflow.lookup = .ok Contract.Trial.pair := by decide +kernel
  have hplace : nestedFiles.dirPlace nested.root = .ok ["work"] := by decide +kernel
  have hinside : nestedFiles.changeDir nested.root = .ok { nestedFiles with cwd := ["work"] } := by
    rw [FileSystem.changeDir, hplace]
  obtain ⟨hcommands, hactions⟩ := emulated_workflow_is_checked (σ := Unit) nested
  obtain ⟨event, argument, later, hargs, hjoined, hsame⟩ :=
    hcommands Contract.Trial.pair ⟨"out"⟩ (Emulator.listJobs nested) (by simp)
  cases hargs
  have hlist := ((hactions (Contract.Trial.tool ⟨some 0, "", ""⟩) surroundings
    (.new nestedFiles ())).2 _ _ hread hextract).1
  exact ⟨by decide, ⟨_, rfl⟩, (hjoined ⟨"/home"⟩).trans (by decide), hread,
    ⟨_, hinside, hsame _ _ _ hinside hread⟩, hlist⟩

end Program

end LintRoster
