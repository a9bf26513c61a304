import LintRoster.Proofs.Smoke.Step
import LintRoster.Proofs.Smoke.Verdict
import Mathlib.Data.List.Basic

/-!
# Runs that share an artifact root

Several smoke checks, one after the other, each get a directory of their own in one directory.
`Sequence` is what they come to. `runs_isolated` shows that no run notices the others, as long as no
job puts a link in the place of its directory.
-/

namespace LintRoster.Smoke

variable {σ : Type}

/-! ## Several runs -/

/-- A run, with what it met and its result. -/
structure Event (σ : Type) where
  run : Run σ
  met : Encounter
  result : Except Error Outcome

/-- `Sequence artifactRoot place w events last` says the runs of the events, one after the other,
lead from `w` to `last`, and that each of them met and came to what its event says. Nothing stands
at the directory of a run when its name is drawn. -/
inductive Sequence (artifactRoot : Path) (place : List String) :
    World σ → List (Event σ) → World σ → Prop where
  | nil (w) : Sequence artifactRoot place w [] w
  | cons (w e middle events last) :
      '/' ∉ e.run.runId.toList →
      (e.run.mode ≠ .disabled → e.run.Meets artifactRoot place w e.met) →
      (e.run.mode ≠ .disabled → e.met.readiness e.run.settings = .ok () →
        w.files.root.find? (place ++ [e.run.name]) = none) →
      e.run.check artifactRoot w = (e.result, middle) →
      Sequence artifactRoot place middle events last →
      Sequence artifactRoot place w (e :: events) last

namespace Sequence

variable {artifactRoot : Path} {place : List String} {w middle last : World σ} {e : Event σ}
  {events : List (Event σ)} {entries : Directory}

/-- The first run of a sequence comes to a step. -/
theorem step_head (hopens : w.files.Opens artifactRoot place entries)
    (hid : '/' ∉ e.run.runId.toList)
    (hmeets : e.run.mode ≠ .disabled → e.run.Meets artifactRoot place w e.met)
    (hfree : e.run.mode ≠ .disabled → e.met.readiness e.run.settings = .ok () →
      w.files.root.find? (place ++ [e.run.name]) = none)
    (hcheck : e.run.check artifactRoot w = (e.result, middle)) :
    e.run.Step artifactRoot place w.files e.met e.result middle.files ∧
      ∃ entries', middle.files.Opens artifactRoot place entries' := by
  have hstep := Run.step_complete (isStepName_artifactDir hid) hopens hmeets hfree
  rw [hcheck] at hstep
  obtain ⟨hwithin, hcwd⟩ := hstep.within
  exact ⟨hstep, hopens.within hcwd hwithin⟩

/-- No run of a sequence takes anything away that stood anywhere before. -/
theorem within (hopens : w.files.Opens artifactRoot place entries)
    (h : Sequence artifactRoot place w events last) : w.files.root.Within last.files.root := by
  induction h generalizing entries with
  | nil => exact .refl _
  | cons w e middle events last hid hmeets hfree hcheck _ ih =>
      obtain ⟨hstep, entries', hopens'⟩ := step_head hopens hid hmeets hfree hcheck
      exact hstep.within.1.trans (ih hopens')

/-- A sequence can be cut anywhere. -/
theorem split {earlier later : List (Event σ)}
    (h : Sequence artifactRoot place w (earlier ++ later) last) :
    ∃ middle, Sequence artifactRoot place w earlier middle ∧
      Sequence artifactRoot place middle later last := by
  induction earlier generalizing w with
  | nil => exact ⟨w, .nil w, h⟩
  | cons e earlier ih =>
      cases h with
      | cons _ _ next _ _ hid hmeets hfree hcheck hrest =>
          obtain ⟨middle, hearlier, hlater⟩ := ih hrest
          exact ⟨middle, .cons _ _ next _ _ hid hmeets hfree hcheck hearlier, hlater⟩

/-- The artifact root is still there after a sequence. -/
theorem opens (hopens : w.files.Opens artifactRoot place entries)
    (h : Sequence artifactRoot place w events last) :
    ∃ entries', last.files.Opens artifactRoot place entries' := by
  induction h generalizing entries with
  | nil => exact ⟨entries, hopens⟩
  | cons w e middle events last hid hmeets hfree hcheck _ ih =>
      obtain ⟨-, entries', hopens'⟩ := step_head hopens hid hmeets hfree hcheck
      exact ih hopens'

/-- Every run of a sequence comes to a step, from files that hold all that was there at the start.
-/
theorem step_of_mem (hopens : w.files.Opens artifactRoot place entries)
    (h : Sequence artifactRoot place w events last) (he : e ∈ events) :
    Path.IsStepName e.run.name ∧ ∃ before after entries', w.files.root.Within before.root ∧
      before.Opens artifactRoot place entries' ∧
      e.run.Step artifactRoot place before e.met e.result after := by
  obtain ⟨earlier, later, rfl⟩ := List.append_of_mem he
  obtain ⟨middle, hearlier, hlater⟩ := h.split
  obtain ⟨entries', hopens'⟩ := hearlier.opens hopens
  cases hlater with
  | cons _ _ next _ _ hid hmeets hfree hcheck _ =>
      obtain ⟨hstep, -⟩ := step_head hopens' hid hmeets hfree hcheck
      exact ⟨isStepName_artifactDir hid, _, _, _, hearlier.within hopens, hopens', hstep⟩

/-- The reports of two runs of a sequence share no path. -/
theorem disjoint (hopens : w.files.Opens artifactRoot place entries)
    (h : Sequence artifactRoot place w events last) :
    events.Pairwise fun e e' ↦ ∀ report report', e.result = .ok (.passed report) →
      e'.result = .ok (.passed report') →
      ∀ p ∈ report.artifacts, ∀ p' ∈ report'.artifacts, p.components ≠ p'.components := by
  induction h generalizing entries with
  | nil => exact .nil
  | cons w e middle events last hid hmeets hfree hcheck hrest ih =>
      obtain ⟨hstep, entries', hopens'⟩ := step_head hopens hid hmeets hfree hcheck
      refine List.pairwise_cons.mpr ⟨?_, ih hopens'⟩
      intro e' he' report report' hpassed hpassed' p hp p' hp'
      have hname := isStepName_artifactDir hid
      obtain ⟨hname', before, after, _, hwithin, hbefore, hstep'⟩ := hrest.step_of_mem hopens' he'
      rw [hpassed] at hstep
      rw [hpassed'] at hstep'
      -- What the first run left is still there when the second one draws its name.
      have hne : e.run.name ≠ e'.run.name := by
        intro heq
        obtain ⟨node, hnode⟩ :=
          Option.ne_none_iff_exists'.mp (hstep.find?_ne_none hname hopens)
        obtain ⟨node', hnode', -⟩ := hwithin _ _ hnode
        obtain ⟨-, hfree', -⟩ := hstep'.passed_spec
        rw [← heq, hnode'] at hfree'
        cases hfree'
      obtain ⟨names, -, hsteps, -⟩ := hstep.artifact_spec hname hopens hp
      obtain ⟨names', -, hsteps', -⟩ := hstep'.artifact_spec hname' hbefore hp'
      rw [hsteps, hsteps']
      exact Run.components_ne hname hname' hne names names'

end Sequence

/-- In a sequence of runs that share an artifact root, whatever else is in it, a run that leaves no
link in the place of its directory has the same result as the run would have that meets the same in
an empty artifact root. It passes only if it leaves a regular file there, and it fails if it can use
its emulator and leaves none. Every path in a report goes to a file below the directory of its run,
or to a file that the run left in its place, and no two reports share a path. From the start to any
run, and from there to the end, no file is changed or taken away. -/
theorem runs_isolated {artifactRoot : Path} {place : List String} {entries : Directory}
    {w last : World σ} {events : List (Event σ)}
    (hopens : w.files.Opens artifactRoot place entries)
    (h : Sequence artifactRoot place w events last) :
    (∀ e ∈ events, (∀ text, e.met.left ≠ some (.link text)) →
      (∀ (τ : Type) (r : Runner τ) (alone : World τ) (elsewhere : List String),
        alone.files.Opens artifactRoot elsewhere .empty →
        (e.run.mode ≠ .disabled →
          (e.run.withRunner r).Meets artifactRoot elsewhere alone e.met) →
        ((e.run.withRunner r).check artifactRoot alone).1 = e.result) ∧
      (∀ report, e.result = .ok (.passed report) →
        ∃ node names bytes executable, e.met.left = some node ∧
          node.Leads names (.file bytes executable)) ∧
      (e.run.mode ≠ .disabled → e.met.readiness e.run.settings = .ok () →
        (∀ node names bytes executable, e.met.left = some node →
          ¬ node.Leads names (.file bytes executable)) →
        ∃ error, e.result = .error error)) ∧
    (∀ e ∈ events, ∀ report, e.result = .ok (.passed report) → ∀ p ∈ report.artifacts,
      ∃ names : List String, p = (e.run.dir artifactRoot).below names ∧
        p.components = (e.run.dir artifactRoot).components ++ names.map .name ∧
        (names = [] → ∃ bytes executable, e.met.left = some (.file bytes executable))) ∧
    (events.Pairwise fun e e' ↦ ∀ report report', e.result = .ok (.passed report) →
      e'.result = .ok (.passed report') →
      ∀ p ∈ report.artifacts, ∀ p' ∈ report'.artifacts, p.components ≠ p'.components) ∧
    ∀ earlier later, events = earlier ++ later →
      ∃ middle, Sequence artifactRoot place w earlier middle ∧
        Sequence artifactRoot place middle later last ∧
        w.files.root.Within middle.files.root ∧ middle.files.root.Within last.files.root := by
  refine ⟨?_, ?_, h.disjoint hopens, ?_⟩
  · intro e he hlink
    obtain ⟨hname, before, after, _, -, hbefore, hstep⟩ := h.step_of_mem hopens he
    refine ⟨?_, ?_, ?_⟩
    · intro τ r alone elsewhere halone hmeets
      have hfree : alone.files.root.find? (elsewhere ++ [e.run.name]) = none := by
        rw [Directory.find?_append_of_dir halone.find?_eq]
        rfl
      exact hstep.agree (Run.step_complete hname halone hmeets fun _ _ ↦ hfree) hname hbefore halone
        hlink
    · intro report hpassed
      rw [hpassed] at hstep
      exact hstep.exported hname hbefore hlink
    · intro hmode hready hbare
      exact hstep.failed hmode hready hname hbefore hlink hbare
  · intro e he report hpassed p hp
    obtain ⟨hname, before, after, _, -, hbefore, hstep⟩ := h.step_of_mem hopens he
    rw [hpassed] at hstep
    exact hstep.artifact_spec hname hbefore hp
  · rintro earlier later rfl
    obtain ⟨middle, hearlier, hlater⟩ := h.split
    obtain ⟨_, hmiddle⟩ := hearlier.opens hopens
    exact ⟨middle, hearlier, hlater, hearlier.within hopens, hlater.within hmiddle⟩

/-! ## Runs next to an old archive -/

namespace Trial

/-- An emulator that can be used, and whose job ends quietly and leaves a node at a place. -/
def exporter (place : List String) (node : Node) : Runner Unit where
  locates _ _ := true
  answer c files _ :=
    if c.args.contains "--list" then (.ok quiet, files, ())
    else (.ok quiet, files.put place node, ())

/-- A run in `out` whose job leaves a node at the directory of the run. -/
def run (runId : String) (node : Node) : Run Unit :=
  ⟨exporter ["out", "act-artifacts-" ++ runId] node, settings, .required, roster, runId⟩

/-- What such a run meets. -/
def met (node : Node) : Encounter := ⟨true, .ok quiet, .ok quiet, some node⟩

/-- A world in which an earlier run left an archive in `out`. -/
def leftover : World Unit :=
  .new ⟨root (.entry "act-artifacts-deadbeef" (.dir archive) .empty), []⟩ ()

/-- A link to the directory of that archive. -/
def linked : Node := .link "act-artifacts-deadbeef"

/-- The names in an archive can all be steps of paths. -/
theorem named_archive : (Node.dir archive).Named := by
  simp only [archive, Node.named_dir_entry_iff, Node.named_dir_empty, Node.named_file, and_true]
  exact ⟨by decide, by decide, by decide, by decide⟩

/-- The names in a tree with a directory `out` can all be steps of paths if those in `out` can. -/
theorem named_root {entries : Directory} (h : (Node.dir entries).Named) :
    (Node.dir (root entries)).Named := by
  simp only [root, Node.named_dir_entry_iff, Node.named_dir_empty, and_true]
  exact ⟨⟨by decide, by decide, by decide, by decide⟩, h⟩

/-- The names in the world of an old archive can all be steps of paths. -/
theorem named_leftover : (Node.dir leftover.files.root).Named := by
  refine named_root ?_
  simp only [Node.named_dir_entry_iff, Node.named_dir_empty, named_archive, and_true]
  exact ⟨by decide, by decide, by decide, by decide⟩

/-- The directory `out` of a file tree is opened by its name. -/
theorem opens_out (entries : Directory) :
    (⟨root entries, []⟩ : FileSystem).Opens ⟨"out"⟩ ["out"] entries := by
  have hname : FileSystem.IsEntryName "out" := ⟨by decide, by decide, by decide, by decide⟩
  have hfound : (root entries).find? ["out"] = some (.dir entries) := rfl
  have hlookup : '\x00' ∉ "out".toList ∧ "out" ≠ "" ∧
      "out".utf8ByteSize ≤ FileSystem.pathLimit := by decide
  refine .leads (FileSystem.stat_eq_ok_iff.mpr
    (FileSystem.resolveWith_eq_ok_iff.mpr ⟨hlookup, ?_⟩))
  exact .dir _ [] "out" [] entries _ hname hfound (.done _ _ _ hfound)

/-- The exporter lists jobs without touching a file. -/
theorem run_listJobs (place : List String) (node : Node) (w : World Unit) :
    w.run (exporter place node) (Emulator.listJobs settings) =
      (.ok quiet, { w with calls := w.calls ++ [Emulator.listJobs settings] }) := by
  have hlist : (Emulator.listJobs settings).args.contains "--list" = true := by decide
  simp only [World.run, exporter, hlist, if_true]

/-- Any other command makes the exporter leave its node. -/
theorem run_job {c : Command} (h : c.args.contains "--list" = false) (place : List String)
    (node : Node) (w : World Unit) :
    w.run (exporter place node) c =
      (.ok quiet, ⟨w.files.put place node, w.memory, w.calls ++ [c]⟩) := by
  simp only [World.run, exporter, h, Bool.false_eq_true, if_false]

section

variable {runId : String} {node : Node} {w : World Unit} {entries : Directory}

/-- A run of the trial meets what its job leaves. -/
theorem run_meets (hid : '/' ∉ runId.toList)
    (hjob : (Emulator.runJob settings roster
      ((run runId node).dir ⟨"out"⟩)).args.contains "--list" = false)
    (hnode : node.Named) (hopens : w.files.Opens ⟨"out"⟩ ["out"] entries)
    (hnamed : (Node.dir w.files.root).Named)
    (hfree : w.files.root.find? (["out"] ++ [(run runId node).name]) = none) :
    (run runId node).Meets ⟨"out"⟩ ["out"] w (met node) where
  located := rfl
  listing _ := by
    rw [run, run_listJobs]
    exact ⟨rfl, rfl⟩
  job started hstarted := by
    have hname : Path.IsStepName (run runId node).name := isStepName_artifactDir hid
    obtain ⟨_, files, memory, made, -, hanswer, -, hmade⟩ := hstarted
    have hlisted := World.run_eq_iff.mpr ⟨files, memory, hanswer, rfl⟩
    cases (run_listJobs _ _ _).symm.trans hlisted
    have hput : made = w.files.put (["out"] ++ [(run runId node).name]) (.dir .empty) := by
      have hchild := (hopens.makeDirs_child hname hfree).symm.trans hmade
      split at hchild
      · cases hchild
      · exact (Prod.mk.inj hchild).2.symm
    subst hput
    have hplace : ∀ name ∈ ["out"] ++ [(run runId node).name], Path.IsStepName name := by
      intro name hmem
      rw [List.mem_append, List.mem_singleton, List.mem_singleton] at hmem
      obtain rfl | rfl := hmem
      · exact ⟨by decide, by decide, by decide, by decide⟩
      · exact hname
    have hcwd : (w.files.put (["out"] ++ [(run runId node).name]) (.dir .empty)).cwd =
        w.files.cwd := rfl
    obtain ⟨_, hopens'⟩ := hopens.within hcwd (Directory.agreeOutside_alterAt.within hfree)
    have hran (started : World Unit) :
        started.run (run runId node).runner (Emulator.runJob (run runId node).settings
          (run runId node).roster ((run runId node).dir ⟨"out"⟩)) = (.ok quiet, _) :=
      run_job hjob _ node started
    rw [hran]
    refine ⟨rfl, rfl, Directory.agreeOutside_alterAt,
      Directory.find?_alterAt_self hopens'.find?_eq, (hnamed.alterAt hplace ?_).alterAt hplace ?_⟩
    · rintro _ _ ⟨⟩
      exact Node.named_dir_empty
    · rintro _ _ ⟨⟩
      exact hnode

/-- A run of the trial can come before others. -/
theorem sequence_cons {events : List (Event Unit)} {last : World Unit} (hid : '/' ∉ runId.toList)
    (hmeets : (run runId node).Meets ⟨"out"⟩ ["out"] w (met node))
    (hfree : w.files.root.find? (["out"] ++ [(run runId node).name]) = none)
    (hrest : Sequence ⟨"out"⟩ ["out"] ((run runId node).check ⟨"out"⟩ w).2 events last) :
    Sequence ⟨"out"⟩ ["out"] w
      (⟨run runId node, met node, ((run runId node).check ⟨"out"⟩ w).1⟩ :: events) last :=
  .cons _ _ _ _ _ hid (fun _ ↦ hmeets) (fun _ _ ↦ hfree) (Prod.eta _).symm hrest

/-- A run of the trial leaves its node, if its name can be looked up. -/
theorem run_leaves (hid : '/' ∉ runId.toList)
    (hfault : FileSystem.childFault? ⟨"out"⟩ (run runId node).name = none)
    (hmeets : (run runId node).Meets ⟨"out"⟩ ["out"] w (met node))
    (hopens : w.files.Opens ⟨"out"⟩ ["out"] entries)
    (hfree : w.files.root.find? (["out"] ++ [(run runId node).name]) = none) :
    (run runId node).Leaves ["out"] w.files (met node)
      ((run runId node).check ⟨"out"⟩ w).2.files := by
  have hstep := Run.step_complete (isStepName_artifactDir hid) hopens (fun _ ↦ hmeets)
    fun _ _ ↦ hfree
  generalize ((run runId node).check ⟨"out"⟩ w).1 = result at hstep
  generalize ((run runId node).check ⟨"out"⟩ w).2.files = after at hstep ⊢
  cases hstep with
  | disabled hmode => cases hmode
  | unready _ _ hready => cases hready
  | unmade _ _ _ hunmade => cases hfault.symm.trans hunmade
  | faulted _ _ _ _ _ _ _ hjob => cases hjob
  | judged _ _ _ _ _ _ hleaves _ => exact hleaves

end

end Trial

open Trial in
/-- Next to an old archive, a run that leaves an archive passes with that one alone, and the run
after it, which leaves nothing, fails as it would in an empty artifact root. The old archive stays.
-/
theorem runs_isolated_trial :
    ∃ full bare last,
      Sequence ⟨"out"⟩ ["out"] leftover
        [⟨run "0badc0de" (.dir archive), met (.dir archive), full⟩,
          ⟨run "1badc0de" (.dir .empty), met (.dir .empty), bare⟩] last ∧
      full = .ok (.passed ⟨some 0, [⟨"out/act-artifacts-0badc0de/lints.tgz"⟩], "\n"⟩) ∧
      ((run "1badc0de" (.dir .empty)).check ⟨"out"⟩ world).1 = bare ∧
      (∃ error, bare = .error error) ∧
      last.files.root.find? ["out", "act-artifacts-deadbeef", "lints.tgz"] =
        some (.file [] false) := by
  have hopens := opens_out (.entry "act-artifacts-deadbeef" (.dir archive) .empty)
  have hmeets : (run "0badc0de" (.dir archive)).Meets ⟨"out"⟩ ["out"] leftover
      (met (.dir archive)) :=
    run_meets (by decide) (by decide) named_archive hopens named_leftover rfl
  have hleaves := run_leaves (by decide) rfl hmeets hopens rfl
  obtain ⟨_, hopens'⟩ := hopens.within hleaves.cwd (hleaves.outside.within rfl)
  -- The first run touched nothing at the name that the second one draws.
  have hfree : ((run "0badc0de" (.dir archive)).check ⟨"out"⟩ leftover).2.files.root.find?
      (["out"] ++ [(run "1badc0de" (.dir .empty)).name]) = none :=
    hleaves.outside.find?_eq_none (by decide) rfl
  have hmeets' := run_meets (by decide) (by decide) Node.named_dir_empty hopens' hleaves.named hfree
  have hsequence := sequence_cons (by decide) hmeets rfl
    (sequence_cons (by decide) hmeets' hfree (.nil _))
  obtain ⟨halone, -, -, hkept⟩ := runs_isolated hopens hsequence
  obtain ⟨hresult, -, hfails⟩ :=
    halone _ (List.mem_cons_of_mem _ List.mem_cons_self) (by simp [met])
  dsimp only at hresult hfails
  refine ⟨_, _, _, hsequence, by decide +kernel, ?_, ?_, ?_⟩
  · exact hresult Unit (exporter _ _) world ["out"] (opens_out .empty) fun _ ↦
      run_meets (by decide) (by decide) Node.named_dir_empty (opens_out .empty)
        (named_root Node.named_dir_empty) rfl
  · refine hfails (by simp [run]) rfl ?_
    rintro _ _ _ _ ⟨⟩ hleads
    cases hleads with
    | enter _ _ _ _ _ hmem => cases hmem
  · obtain ⟨middle, -, -, hbefore, hafter⟩ := hkept [] _ rfl
    obtain ⟨_, hfound, ⟨⟩⟩ := hbefore.trans hafter ["out", "act-artifacts-deadbeef", "lints.tgz"]
      (.file [] false) rfl
    exact hfound

open Trial in
/-- A run that leaves a link to the directory of an old archive passes with that archive, but fails
in an empty artifact root, where it meets the same. A run that leaves a file in the place of its
directory passes with the path of the directory itself. -/
theorem linked_leftover_counted :
    (Sequence ⟨"out"⟩ ["out"] leftover
        [⟨run "0badc0de" linked, met linked,
          .ok (.passed ⟨some 0, [⟨"out/act-artifacts-0badc0de/lints.tgz"⟩], "\n"⟩)⟩]
        ((run "0badc0de" linked).check ⟨"out"⟩ leftover).2 ∧
      world.files.Opens ⟨"out"⟩ ["out"] .empty ∧
      (run "0badc0de" linked).Meets ⟨"out"⟩ ["out"] world (met linked) ∧
      ((run "0badc0de" linked).check ⟨"out"⟩ world).1 =
        .error (.jobFailed "act did not export any artefacts to out/act-artifacts-0badc0de" "\n")) ∧
    Sequence ⟨"out"⟩ ["out"] leftover
      [⟨run "0badc0de" (.file [] false), met (.file [] false),
        .ok (.passed ⟨some 0, [(run "0badc0de" (.file [] false)).dir ⟨"out"⟩], "\n"⟩)⟩]
      ((run "0badc0de" (.file [] false)).check ⟨"out"⟩ leftover).2 := by
  have hlinked : ((run "0badc0de" linked).check ⟨"out"⟩ leftover).1 =
      .ok (.passed ⟨some 0, [⟨"out/act-artifacts-0badc0de/lints.tgz"⟩], "\n"⟩) := by decide +kernel
  have hreplaced : ((run "0badc0de" (.file [] false)).check ⟨"out"⟩ leftover).1 =
      .ok (.passed ⟨some 0, [(run "0badc0de" (.file [] false)).dir ⟨"out"⟩], "\n"⟩) := by
    decide +kernel
  have hopens := opens_out (.entry "act-artifacts-deadbeef" (.dir archive) .empty)
  refine ⟨⟨?_, opens_out .empty, ?_, by decide +kernel⟩, ?_⟩
  · rw [← hlinked]
    exact sequence_cons (by decide)
      (run_meets (by decide) (by decide) Node.named_link hopens named_leftover rfl) rfl (.nil _)
  · exact run_meets (by decide) (by decide) Node.named_link (opens_out .empty)
      (named_root Node.named_dir_empty) rfl
  · rw [← hreplaced]
    exact sequence_cons (by decide)
      (run_meets (by decide) (by decide) Node.named_file hopens named_leftover rfl) rfl (.nil _)

end LintRoster.Smoke
