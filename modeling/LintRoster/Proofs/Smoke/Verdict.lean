import LintRoster.Proofs.FileSystem.Listing
import LintRoster.Proofs.Smoke.Course

/-!
# When a smoke check passes

The criteria for the run of a job, apart from the code that judges it: `Accepted` is the run that
meets all of them, and `FirstUnmet` names the first one that a run does not meet.
`judge_cases` shows that every run is of one kind or the other, unless the listing of its artifacts
ends with a fault. `check_passed_iff` puts this together with the stages before the job.
-/

namespace LintRoster.Smoke

/-- No signature is a part of the logs. -/
def Clean (signatures : List String) (logs : String) : Prop :=
  ∀ signature ∈ signatures, ¬ signature.toList <:+: logs.toList

/-- `Accepted files dir signatures o artifacts` says a run meets every criterion: it ended with exit
code zero, logged no signature and left a regular file, and `artifacts` is the listing of what it
left. -/
structure Accepted (files : FileSystem) (dir : Path) (signatures : List String) (o : Output)
    (artifacts : List Path) : Prop where
  exit : o.exitCode = some 0
  clean : Clean signatures o.combined
  listed : files.listFiles dir = .ok artifacts
  holds : files.HoldsFile dir

/-- `FirstUnmet files dir signatures o reason` says `reason` describes the first criterion, in the
order exit code, signatures, artifacts, that a run does not meet. -/
inductive FirstUnmet (files : FileSystem) (dir : Path) (signatures : List String) (o : Output) :
    String → Prop where
  | exit :
      o.exitCode ≠ some 0 →
      FirstUnmet files dir signatures o ("act job failed with " ++ statusText o.exitCode)
  | logged (earlier signature later) :
      o.exitCode = some 0 → signatures = earlier ++ signature :: later →
      Clean earlier o.combined → signature.toList <:+: o.combined.toList →
      FirstUnmet files dir signatures o ("act job logged forbidden output '" ++ signature ++ "'")
  | bare :
      o.exitCode = some 0 → Clean signatures o.combined → files.listFiles dir = .ok [] →
      FirstUnmet files dir signatures o ("act did not export any artefacts to " ++ dir.text)

section Judgement

variable {files : FileSystem} {dir : Path} {signatures : List String} {o : Output}
  {artifacts : List Path}

/-- No signature is found in logs exactly if they are clean. -/
theorem find_signature_eq_none {logs : String} :
    (signatures.find? fun signature ↦ Text.occursIn signature logs) = none ↔
      Clean signatures logs := by
  simp only [List.find?_eq_none, Text.occursIn_iff, Clean]

/-- The signature that is found in logs is the first of those that are a part of them. -/
theorem find_signature_eq_some {logs signature : String} :
    (signatures.find? fun signature ↦ Text.occursIn signature logs) = some signature ↔
      signature.toList <:+: logs.toList ∧
      ∃ earlier later, signatures = earlier ++ signature :: later ∧ Clean earlier logs := by
  simp only [List.find?_eq_some_iff_append, Bool.not_eq_true', Clean, ← Text.occursIn_iff,
    Bool.not_eq_true]

/-- A run with a clean log and exit code zero fails if its artifacts cannot be listed. -/
theorem judge_of_listFiles_error {fault : FileFault} (hexit : o.exitCode = some 0)
    (hclean : Clean signatures o.combined) (hlisted : files.listFiles dir = .error fault) :
    judge files o dir signatures = .error (.io fault) := by
  simp only [judge, Output.succeeded_iff.mpr hexit, find_signature_eq_none.mpr hclean, hlisted,
    Bool.not_true, Bool.false_eq_true, if_false]

/-- A run with a clean log and exit code zero is judged by whether its artifacts are any. -/
theorem judge_of_listFiles_ok (hexit : o.exitCode = some 0)
    (hclean : Clean signatures o.combined) (hlisted : files.listFiles dir = .ok artifacts) :
    judge files o dir signatures =
      if artifacts.isEmpty then
        .error (.jobFailed ("act did not export any artefacts to " ++ dir.text) o.combined)
      else .ok ⟨o.exitCode, artifacts, o.combined⟩ := by
  simp only [judge, Output.succeeded_iff.mpr hexit, find_signature_eq_none.mpr hclean, hlisted,
    Bool.not_true, Bool.false_eq_true, if_false]

/-- A run that meets every criterion is reported with the listing of what it left. -/
theorem judge_of_accepted (h : Accepted files dir signatures o artifacts) :
    judge files o dir signatures = .ok ⟨some 0, artifacts, o.combined⟩ := by
  have hsome : artifacts ≠ [] :=
    mt (FileSystem.eq_nil_iff_of_listFiles h.listed).mp (not_not_intro h.holds)
  rw [judge_of_listFiles_ok h.exit h.clean h.listed]
  simp [hsome, h.exit]

/-- A run that does not meet some criterion fails with the first one, and with its full logs. -/
theorem judge_of_first_unmet {reason : String} (h : FirstUnmet files dir signatures o reason) :
    judge files o dir signatures = .error (.jobFailed reason o.combined) := by
  cases h with
  | exit hexit => simp [judge, Output.succeeded, hexit]
  | logged earlier signature later hexit hsplit hclean hlogged =>
      have hfound := find_signature_eq_some.mpr ⟨hlogged, earlier, later, hsplit, hclean⟩
      simp only [judge, Output.succeeded_iff.mpr hexit, hfound, Bool.not_true, Bool.false_eq_true,
        if_false]
  | bare hexit hclean hlisted =>
      rw [judge_of_listFiles_ok hexit hclean hlisted]
      rfl

/-- A run meets every criterion, or there is a first one that it does not meet, or the listing of
its artifacts ends with a fault. -/
theorem judge_cases (files : FileSystem) (dir : Path) (signatures : List String) (o : Output) :
    (∃ artifacts, Accepted files dir signatures o artifacts) ∨
    (∃ reason, FirstUnmet files dir signatures o reason) ∨
    (o.exitCode = some 0 ∧ Clean signatures o.combined ∧
      ∃ fault, files.listFiles dir = .error fault) := by
  by_cases hexit : o.exitCode = some 0
  · cases hfound : signatures.find? fun signature ↦ Text.occursIn signature o.combined with
    | some signature =>
        obtain ⟨hlogged, earlier, later, hsplit, hclean⟩ := find_signature_eq_some.mp hfound
        exact Or.inr (Or.inl ⟨_, .logged earlier signature later hexit hsplit hclean hlogged⟩)
    | none =>
        have hclean := find_signature_eq_none.mp hfound
        cases hlisted : files.listFiles dir with
        | error fault => exact Or.inr (Or.inr ⟨hexit, hclean, fault, rfl⟩)
        | ok artifacts =>
            by_cases hholds : files.HoldsFile dir
            · exact Or.inl ⟨artifacts, hexit, hclean, hlisted, hholds⟩
            · obtain rfl := (FileSystem.eq_nil_iff_of_listFiles hlisted).mpr hholds
              exact Or.inr (Or.inl ⟨_, .bare hexit hclean hlisted⟩)
  · exact Or.inr (Or.inl ⟨_, .exit hexit⟩)

/-- The judgement of a run is a report exactly if the run meets every criterion and the report shows
it. -/
theorem judge_eq_ok_iff {report : Report} :
    judge files o dir signatures = .ok report ↔
      Accepted files dir signatures o report.artifacts ∧ report.exitCode = some 0 ∧
        report.logs = o.combined := by
  constructor
  · intro hjudged
    obtain ⟨artifacts, haccepted⟩ | ⟨reason, hunmet⟩ | ⟨hexit, hclean, fault, hlisted⟩ :=
      judge_cases files dir signatures o
    · cases (judge_of_accepted haccepted).symm.trans hjudged
      exact ⟨haccepted, rfl, rfl⟩
    · cases (judge_of_first_unmet hunmet).symm.trans hjudged
    · cases (judge_of_listFiles_error hexit hclean hlisted).symm.trans hjudged
  · rintro ⟨haccepted, hexit, hlogs⟩
    obtain ⟨exitCode, artifacts, logs⟩ := report
    subst hexit hlogs
    exact judge_of_accepted haccepted

end Judgement

/-! ## A trial emulator -/

namespace Trial

/-- The settings of the trial. -/
def settings : Settings := .new ⟨"/work"⟩

/-- The roster of the trial. -/
def roster : Roster := ⟨["alpha"], .root, by decide⟩

/-- The directory for the artifacts of the trial's run. -/
def dir : Path := ⟨"out/act-artifacts-0badc0de"⟩

/-- The check of the trial draws that directory. -/
theorem artifactDir_eq : artifactDir ⟨"out"⟩ "0badc0de" = dir := by decide

/-- The file tree that holds a directory `out` with the given entries, and nothing else. -/
def root (entries : Directory) : Directory := .entry "out" (.dir entries) .empty

/-- A world with an empty directory `out`, seen from the root. -/
def world : World Unit := .new ⟨root .empty, []⟩ ()

/-- The file tree in which a node stands at the directory for artifacts. -/
def tree (node : Node) : Directory := root (.entry "act-artifacts-0badc0de" node .empty)

/-- An emulator that can be used, and whose job ends with `o` and leaves `node` at the directory for
artifacts. -/
def emulator (o : Output) (node : Node) : Runner Unit where
  locates _ _ := true
  answer c files _ :=
    if c.args.contains "--list" then (.ok ⟨some 0, "", ""⟩, files, ())
    else (.ok o, { files with root := tree node }, ())

/-- The answer of the trial's check. -/
def answer (o : Output) (node : Node) : Except Error Outcome :=
  (check (emulator o node) settings .required roster ⟨"out"⟩ "0badc0de" world).1

/-- The directory for artifacts is resolved by its name in `out`. -/
theorem resolve_dir (entries : Directory) (followLast : Bool) :
    (⟨root entries, []⟩ : FileSystem).resolveWith followLast dir =
      FileSystem.walk (root entries) followLast (FileSystem.follow (root entries) followLast 39)
        ["out"] ["act-artifacts-0badc0de"] := by
  have hnul : dir.text.toList.contains '\x00' = false := by decide
  have hempty : (dir.text == "") = false := by decide
  have hsize : ¬ dir.text.utf8ByteSize > FileSystem.pathLimit := by decide
  have hrelative : dir.isAbsolute = false := by decide
  have hpieces : dir.pieces = ["out", "act-artifacts-0badc0de"] := by decide
  have hout : "out".utf8ByteSize = 3 := by decide
  simp only [FileSystem.resolveWith, FileSystem.start, hnul, hempty, hsize, hrelative, hpieces,
    FileSystem.linkLimit, FileSystem.follow, Bool.false_eq_true, if_false]
  simp [FileSystem.walk, root, Directory.find?, Directory.get?, hout, FileSystem.nameLimit]

/-- The name of the directory for artifacts is short enough. -/
theorem name_size : "act-artifacts-0badc0de".utf8ByteSize = 22 := by decide

/-- Nothing stands at the directory for artifacts before the check. -/
theorem makeDirs_dir : world.files.makeDirs dir = (.ok (), ⟨tree (.dir .empty), []⟩) := by
  have hancestry : FileSystem.ancestry dir = [dir, ⟨"out"⟩] := by decide
  have hempty : (dir.text == "") = false := by decide
  have hmade : world.files.makeDir dir = .ok ⟨tree (.dir .empty), []⟩ := by
    rw [FileSystem.makeDir, FileSystem.resolveLink, world, World.new, resolve_dir]
    simp [FileSystem.walk, FileSystem.holdsDir, root, tree, Directory.find?, Directory.get?,
      name_size, FileSystem.nameLimit, FileSystem.put, Directory.alterAt, Directory.alter]
  rw [FileSystem.makeDirs, hempty, hancestry, FileSystem.makeDirChain, hmade]
  rfl

/-- The world in which the job of the trial starts. -/
def started : World Unit := ⟨⟨tree (.dir .empty), []⟩, (), [Emulator.listJobs settings]⟩

/-- The trial gets as far as its job. -/
theorem job_started (o : Output) (node : Node) :
    JobStarted (emulator o node) settings dir world started := by
  have hlist : (Emulator.listJobs settings).args.contains "--list" = true := by decide
  have hlisted : (emulator o node).answer (Emulator.listJobs settings) world.files world.memory =
      (.ok ⟨some 0, "", ""⟩, world.files, ()) := by
    simp only [emulator, hlist, if_true]
  exact .intro _ _ _ _ rfl hlisted rfl makeDirs_dir

/-- The job of the trial ends as the emulator says. -/
theorem job_ran (o : Output) (node : Node) :
    ∃ calls, JobRan (emulator o node) settings roster dir world o ⟨⟨tree node, []⟩, (), calls⟩ := by
  have hrun : (Emulator.runJob settings roster dir).args.contains "--list" = false := by decide
  refine ⟨[Emulator.listJobs settings, Emulator.runJob settings roster dir],
    .intro started o _ _ (job_started o node) ?_⟩
  simp only [emulator, hrun, Bool.false_eq_true, if_false]
  rfl

/-- What the job of the trial leaves is found at the directory for artifacts. -/
theorem resolveWith_dir (node : Node) (followLast : Bool) (h : ∀ target, node ≠ .link target) :
    (⟨tree node, []⟩ : FileSystem).resolveWith followLast dir =
      .ok (.node ["out", "act-artifacts-0badc0de"] node) := by
  rw [tree, resolve_dir]
  cases node with
  | link target => exact absurd rfl (h target)
  | file | dir =>
      simp [FileSystem.walk, root, Directory.find?, Directory.get?, name_size,
        FileSystem.nameLimit]

/-- A directory that the job of the trial leaves can be entered. -/
theorem stat_dir (entries : Directory) :
    (⟨tree (.dir entries), []⟩ : FileSystem).stat dir =
      .ok (["out", "act-artifacts-0badc0de"], .dir entries) := by
  rw [FileSystem.stat, FileSystem.resolve, resolveWith_dir _ _ (by simp)]

/-- The output of a job that did well and had nothing to say. -/
def quiet : Output := ⟨some 0, "", ""⟩

/-- No signature of the trial's settings is a part of a quiet job's logs. -/
theorem clean_quiet : Clean settings.emulator.forbiddenSignatures quiet.combined :=
  find_signature_eq_none.mp (by decide)

/-- An archive, and nothing else. -/
def archive : Directory := .entry "lints.tgz" (.file [] false) .empty

/-- An archive alone is all that a listing shows. -/
theorem regularFiles_archive : (⟨tree (.dir archive), []⟩ : FileSystem).regularFiles dir =
    [⟨"out/act-artifacts-0badc0de/lints.tgz"⟩] := by
  have hstart : (⟨tree (.dir archive), []⟩ : FileSystem).walkStart? dir = some (.dir archive) :=
    FileSystem.walkStart?_eq_dir_iff.mpr ⟨_, stat_dir archive⟩
  have hchild : dir.child "lints.tgz" = ⟨"out/act-artifacts-0badc0de/lints.tgz"⟩ := by decide
  have hnames : (archive.toList.map Prod.fst).Pairwise (· < ·) := List.pairwise_singleton _ _
  have hfiles : (Node.dir archive).filesBelow dir = [dir.child "lints.tgz"] := by
    rw [Node.filesBelow_dir, Directory.inNameOrder_of_pairwise hnames]
    rfl
  simp [FileSystem.regularFiles, FileSystem.walkFiles, hstart, hfiles, hchild]

/-- The directory with the archive can be walked. -/
theorem walkable_archive : (⟨tree (.dir archive), []⟩ : FileSystem).Walkable dir := by
  rintro place entries names sub hstat hleads
  rw [stat_dir] at hstat
  cases hstat
  cases hleads with
  | here => decide
  | enter _ name child rest _ hmem hrest =>
      simp only [archive, Directory.toList, List.mem_singleton, Prod.mk.injEq] at hmem
      obtain ⟨-, rfl⟩ := hmem
      cases hrest

/-- A name that is as long as a name can be. -/
def longName : String := .ofList (.replicate 255 'a')

/-- A tower of directories, each of which is the only entry of the one above it. -/
def tower : Nat → Directory
  | 0 => .empty
  | n + 1 => .entry longName (.dir (tower n)) .empty

/-- An archive next to a tower of directories whose path becomes too long. -/
def exports : Directory :=
  .entry longName (.dir (tower 15)) (.entry "lints.tgz" (.file [] false) .empty)

/-- Long names lead to the ground of a tower. -/
theorem tower_leads : ∀ n : Nat,
    (Node.dir (tower n)).Leads (.replicate n longName) (.dir .empty)
  | 0 => .here _
  | n + 1 => .enter _ _ _ _ _ (by simp [tower, Directory.toList]) (tower_leads n)

/-- Every long name makes a path longer by its own length. -/
theorem utf8ByteSize_below_longName (n : Nat) : ∀ p : Path,
    p.text.utf8ByteSize + n * 255 ≤ (p.below (.replicate n longName)).text.utf8ByteSize := by
  have hsize : longName.utf8ByteSize = 255 := by decide +kernel
  have hhead (m : Nat) : (List.replicate m 'a').head? ≠ some '/' := by simp [List.head?_replicate]
  have hrelative : longName.toList.head? ≠ some '/' := String.toList_ofList ▸ hhead 255
  induction n with
  | zero => simp
  | succ n ih =>
      intro p
      have hchild := p.utf8ByteSize_child_le hrelative
      have hbelow := ih (p.child longName)
      rw [List.replicate_succ, Path.below_cons]
      omega

/-- A tower hides the artifacts next to it. -/
theorem not_walkable_exports : ¬ (⟨tree (.dir exports), []⟩ : FileSystem).Walkable dir := by
  intro h
  have hleads : (Node.dir exports).Leads (.replicate 16 longName) (.dir .empty) :=
    .enter _ _ _ _ _ (by simp [exports, Directory.toList]) (tower_leads 15)
  have hshort := h _ _ _ _ (stat_dir exports) hleads
  have hlong := utf8ByteSize_below_longName 16 dir
  have hdir : dir.text.utf8ByteSize = 26 := by decide
  simp only [FileSystem.pathLimit] at hshort
  omega

end Trial

/-! ## The criteria for a passed check -/

variable {σ : Type}

/-- A check passes exactly if it is enabled, gets as far as its job, and the job ends with a run
that meets every criterion; the report then holds the exit code zero, the listing of the directory
for artifacts and the full logs. A listing is empty exactly if there is no regular file. A run with
another exit code, with a signature in its log or with an empty listing fails with the first of
these, and with the full logs. If only the listing ends with a fault, that fault is the answer. -/
theorem check_passed_iff (r : Runner σ) (s : Settings) (mode : Mode) (roster : Roster)
    (artifactRoot : Path) (runId : String) (w : World σ) :
    (∀ report,
      (check r s mode roster artifactRoot runId w).1 = .ok (.passed report) ↔
        mode ≠ .disabled ∧ ∃ o after,
          JobRan r s roster (artifactDir artifactRoot runId) w o after ∧
          Accepted after.files (artifactDir artifactRoot runId)
            s.emulator.forbiddenSignatures o report.artifacts ∧
          report.exitCode = some 0 ∧ report.logs = o.stdout ++ "\n" ++ o.stderr) ∧
    ∀ o after, mode ≠ .disabled →
      JobRan r s roster (artifactDir artifactRoot runId) w o after →
      (∀ artifacts, after.files.listFiles (artifactDir artifactRoot runId) = .ok artifacts →
        (artifacts = [] ↔ ¬ after.files.HoldsFile (artifactDir artifactRoot runId))) ∧
      ((o.exitCode ≠ some 0 ∨ ¬ Clean s.emulator.forbiddenSignatures o.combined ∨
          after.files.listFiles (artifactDir artifactRoot runId) = .ok []) →
        ∃ reason,
          FirstUnmet after.files (artifactDir artifactRoot runId) s.emulator.forbiddenSignatures o
            reason ∧
          (check r s mode roster artifactRoot runId w).1 =
            .error (.jobFailed reason (o.stdout ++ "\n" ++ o.stderr))) ∧
      ∀ fault, o.exitCode = some 0 → Clean s.emulator.forbiddenSignatures o.combined →
        after.files.listFiles (artifactDir artifactRoot runId) = .error fault →
        (check r s mode roster artifactRoot runId w).1 = .error (.io fault) := by
  constructor
  · intro report
    constructor
    · intro hpassed
      obtain ⟨hmode, o, after, hran, hjudged⟩ := job_ran_of_passed hpassed
      obtain ⟨haccepted, hexit, hlogs⟩ := judge_eq_ok_iff.mp hjudged
      exact ⟨hmode, o, after, hran, haccepted, hexit, hlogs⟩
    · rintro ⟨hmode, o, after, hran, haccepted, hexit, hlogs⟩
      rw [check_of_job_ran hmode hran, judge_eq_ok_iff.mpr ⟨haccepted, hexit, hlogs⟩]
      rfl
  · intro o after hmode hran
    rw [check_of_job_ran hmode hran]
    refine ⟨fun artifacts ↦ FileSystem.eq_nil_iff_of_listFiles, ?_, ?_⟩
    · intro hmissed
      obtain ⟨artifacts, haccepted⟩ | ⟨reason, hunmet⟩ | ⟨hexit, hclean, fault, hfault⟩ :=
        judge_cases after.files (artifactDir artifactRoot runId) s.emulator.forbiddenSignatures o
      · obtain hexit | hlogged | hbare := hmissed
        · exact absurd haccepted.exit hexit
        · exact absurd haccepted.clean hlogged
        · exact absurd haccepted.holds ((FileSystem.eq_nil_iff_of_listFiles hbare).mp rfl)
      · exact ⟨reason, hunmet, by rw [judge_of_first_unmet hunmet]; rfl⟩
      · obtain hmissed | hmissed | hbare := hmissed
        · exact absurd hexit hmissed
        · exact absurd hclean hmissed
        · cases hbare.symm.trans hfault
    · intro fault hexit hclean hfault
      rw [judge_of_listFiles_error hexit hclean hfault]
      rfl

namespace Trial

/-- What the job of the trial leaves is what the judgement of its run sees. -/
theorem answer_eq (o : Output) (node : Node) :
    answer o node =
      (judge ⟨tree node, []⟩ o dir settings.emulator.forbiddenSignatures).map .passed := by
  obtain ⟨calls, hran⟩ := job_ran o node
  rw [← artifactDir_eq] at hran ⊢
  rw [answer, check_of_job_ran (by simp) hran]

end Trial

open Trial in
/-- A quiet run that leaves an archive passes with that archive, a run with exit code one fails with
its exit code, and a run whose archive stands next to a directory that cannot be opened ends with
the fault of the listing. -/
theorem check_passed_trial :
    answer quiet (.dir archive) =
        .ok (.passed ⟨some 0, [⟨"out/act-artifacts-0badc0de/lints.tgz"⟩], "\n"⟩) ∧
      answer ⟨some 1, "", ""⟩ (.dir .empty) =
        .error (.jobFailed "act job failed with exit code 1" "\n") ∧
      ∃ fault, (⟨tree (.dir exports), []⟩ : FileSystem).listFiles dir = .error fault ∧
        answer quiet (.dir exports) = .error (.io fault) := by
  have hcriteria (o : Output) (node : Node) := check_passed_iff (emulator o node) settings .required
    roster ⟨"out"⟩ "0badc0de" world
  rw [artifactDir_eq] at hcriteria
  refine ⟨?_, ?_, ?_⟩
  · obtain ⟨calls, hran⟩ := job_ran quiet (.dir archive)
    refine ((hcriteria quiet (.dir archive)).1 _).mpr
      ⟨by simp, quiet, _, hran, ⟨rfl, clean_quiet, ?_, ?_⟩, rfl, rfl⟩
    · rw [FileSystem.listFiles_of_walkable walkable_archive, regularFiles_archive]
    · exact .below _ archive ["lints.tgz"] [] false (stat_dir archive)
        (.enter _ _ _ _ _ (by simp [archive, Directory.toList]) (.here _))
  · obtain ⟨calls, hran⟩ := job_ran ⟨some 1, "", ""⟩ (.dir .empty)
    obtain ⟨reason, hunmet, hanswer⟩ :=
      ((hcriteria ⟨some 1, "", ""⟩ (.dir .empty)).2 _ _ (by simp) hran).2.1 (Or.inl (by simp))
    rw [answer, hanswer]
    cases hunmet with
    | exit => rfl
    | logged _ _ _ hexit | bare hexit => cases hexit
  · obtain ⟨calls, hran⟩ := job_ran quiet (.dir exports)
    obtain ⟨p, hfault⟩ := FileSystem.listFiles_of_not_walkable not_walkable_exports
    exact ⟨_, hfault, ((hcriteria quiet (.dir exports)).2 _ _ (by simp) hran).2.2 _ rfl clean_quiet
      hfault⟩

open Trial in
/-- A quiet run that leaves an archive does not pass if a directory next to the archive cannot be
opened, and a quiet run that leaves a file in the place of its directory passes. -/
theorem exported_archive_not_passed :
    ((∃ after, JobRan (emulator quiet (.dir exports)) settings roster dir world quiet after ∧
        Clean settings.emulator.forbiddenSignatures quiet.combined ∧ after.files.HoldsFile dir) ∧
      ∀ report, answer quiet (.dir exports) ≠ .ok (.passed report)) ∧
    ((∃ after, JobRan (emulator quiet (.file [] false)) settings roster dir world quiet after ∧
        ∀ place entries, after.files.stat dir ≠ .ok (place, .dir entries)) ∧
      answer quiet (.file [] false) = .ok (.passed ⟨some 0, [dir], "\n"⟩)) := by
  refine ⟨⟨?_, ?_⟩, ?_, ?_⟩
  · obtain ⟨calls, hran⟩ := job_ran quiet (.dir exports)
    refine ⟨_, hran, clean_quiet, .below _ exports ["lints.tgz"] [] false (stat_dir exports) ?_⟩
    exact .enter _ _ _ _ _ (by simp [exports, Directory.toList]) (.here _)
  · intro report hpassed
    obtain ⟨p, hfault⟩ := FileSystem.listFiles_of_not_walkable not_walkable_exports
    rw [answer_eq, judge_of_listFiles_error rfl clean_quiet hfault] at hpassed
    cases hpassed
  · obtain ⟨calls, hran⟩ := job_ran quiet (.file [] false)
    refine ⟨_, hran, ?_⟩
    rintro place entries hstat
    rw [FileSystem.stat, FileSystem.resolve, resolveWith_dir _ _ (by simp)] at hstat
    cases hstat
  · have hlink : (⟨tree (.file [] false), []⟩ : FileSystem).resolveLink dir = _ :=
      resolveWith_dir (.file [] false) false (by simp)
    have hlisted : (⟨tree (.file [] false), []⟩ : FileSystem).listFiles dir = .ok [dir] := by
      simp [FileSystem.listFiles, FileSystem.regularFiles, FileSystem.walkFiles,
        FileSystem.walkStart?, hlink, Node.unopened?, Node.filesBelow]
    rw [answer_eq, judge_of_listFiles_ok rfl clean_quiet hlisted]
    rfl

end LintRoster.Smoke
