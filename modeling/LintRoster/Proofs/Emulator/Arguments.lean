import LintRoster.Emulator.Invocation
import LintRoster.Proofs.Text.Words

/-!
# What the arguments of a job say

The arguments of the command for a job hold two groups of any length, the platforms and the axes of
the matrix, and two texts that are put together from parts. `JobRequest` is what they are made from
besides the extra arguments, and `runJob_args_eq_iff` says that they determine it: a group ends at
the first flag that is not its own, wherever a value of the group looks like a flag, and a text is
cut at the first of its separators.
-/

namespace LintRoster.Emulator

/-- What is asked of the emulator when it is to run a job. -/
@[ext]
structure JobRequest where
  event : String
  workflow : Path
  job : String
  eventPath : Path
  platforms : List String
  artifacts : Path
  matrix : NameMap String
  key : String
  names : List String
deriving DecidableEq

/-- The request that the command for a job puts into arguments. -/
def jobRequest (s : Settings) (roster : Roster) (artifacts : Path) : JobRequest where
  event := s.emulator.event
  workflow := s.workflow.path
  job := s.workflow.job
  eventPath := s.emulator.eventPath
  platforms := s.emulator.platforms
  artifacts := artifacts
  matrix := s.emulator.matrix
  key := s.workflow.key
  names := roster.names

/-- Values, each behind the same flag. -/
def flagged (flag : String) (values : List String) : List String :=
  values.flatMap fun value ↦ [flag, value]

/-- The text of an axis with its value. -/
def axisText (axis : String × String) : String :=
  axis.1 ++ ":" ++ axis.2

namespace JobRequest

/-- The arguments that a request is put into, with extra ones in their place. -/
def args (q : JobRequest) (extra : List String) : List String :=
  [q.event, "-W", q.workflow.text, "-j", q.job, "-e", q.eventPath.text] ++
    (flagged "-P" q.platforms ++ artifactFlag :: q.artifacts.text ::
      (extra ++ (flagged "--matrix" (q.matrix.toList.map axisText) ++
        ["--env", q.key ++ "=" ++ " ".intercalate q.names])))

/-- The parts of a request that are put together in one text can be told apart: no axis holds a
colon, the key holds no equals sign, and the names are words. -/
structure Separable (q : JobRequest) : Prop where
  axes : ∀ axis ∈ q.matrix.toList, ':' ∉ axis.1.toList
  key : '=' ∉ q.key.toList
  names : ∀ name ∈ q.names, Text.IsWord name

end JobRequest

/-- The arguments of the command for a job are those of its request. -/
theorem args_runJob (s : Settings) (roster : Roster) (artifacts : Path) :
    (runJob s roster artifacts).args =
      (jobRequest s roster artifacts).args s.emulator.extraArgs := by
  have hmatrix : matrixArgs s = flagged "--matrix" (s.emulator.matrix.toList.map axisText) := by
    rw [flagged, List.flatMap_map]
    rfl
  simp only [runJob, hmatrix, List.append_assoc]
  rfl

/-- A group of flagged values ends where another flag stands in the place of its own, so two such
groups that begin the same list are one. -/
theorem flagged_append_inj {flag other : String} {xs ys rest rest' : List String}
    (hother : other ≠ flag)
    (h : flagged flag xs ++ other :: rest = flagged flag ys ++ other :: rest') :
    xs = ys ∧ rest = rest' := by
  -- Both groups are read two arguments at a time, so a value is never taken for a flag.
  induction xs generalizing ys with
  | nil =>
      cases ys with
      | nil => exact ⟨rfl, (List.cons.inj h).2⟩
      | cons y ys => exact absurd (List.cons.inj h).1 hother
  | cons x xs ih =>
      cases ys with
      | nil => exact absurd (List.cons.inj h).1.symm hother
      | cons y ys =>
          obtain ⟨-, hpair⟩ := List.cons.inj h
          obtain ⟨rfl, htail⟩ := List.cons.inj hpair
          obtain ⟨rfl, rfl⟩ := ih htail
          exact ⟨rfl, rfl⟩

/-- Characters with a separator behind them are told apart from those behind the separator, if it is
not one of them. -/
theorem append_cons_inj {c : Char} {front front' back back' : List Char} (hfront : c ∉ front)
    (hfront' : c ∉ front') (h : front ++ c :: back = front' ++ c :: back') :
    front = front' ∧ back = back' := by
  induction front generalizing front' with
  | nil =>
      cases front' with
      | nil => exact ⟨rfl, (List.cons.inj h).2⟩
      | cons d front' => exact absurd (List.cons.inj h).1 (List.ne_of_not_mem_cons hfront')
  | cons d front ih =>
      cases front' with
      | nil => exact absurd (List.cons.inj h).1.symm (List.ne_of_not_mem_cons hfront)
      | cons e front' =>
          obtain ⟨rfl, htail⟩ := List.cons.inj h
          obtain ⟨rfl, rfl⟩ := ih (List.not_mem_of_not_mem_cons hfront)
            (List.not_mem_of_not_mem_cons hfront') htail
          exact ⟨rfl, rfl⟩

/-- A text is told apart from what is put behind it and a separator, if it does not hold the
separator. -/
theorem separated_inj {c : Char} {separator a b x y : String} (hseparator : separator.toList = [c])
    (ha : c ∉ a.toList) (hb : c ∉ b.toList) (h : a ++ separator ++ x = b ++ separator ++ y) :
    a = b ∧ x = y := by
  have hlist := congrArg String.toList h
  simp only [String.toList_append, hseparator, List.append_assoc, List.singleton_append] at hlist
  obtain ⟨hfront, hback⟩ := append_cons_inj ha hb hlist
  exact ⟨String.toList_injective hfront, String.toList_injective hback⟩

/-- Axes whose names hold no colon are told apart by their texts. -/
theorem map_axisText_inj {xs ys : List (String × String)} (hx : ∀ axis ∈ xs, ':' ∉ axis.1.toList)
    (hy : ∀ axis ∈ ys, ':' ∉ axis.1.toList) (h : xs.map axisText = ys.map axisText) : xs = ys := by
  induction xs generalizing ys with
  | nil => simpa using h.symm
  | cons x xs ih =>
      cases ys with
      | nil => simp at h
      | cons y ys =>
          obtain ⟨hhead, htail⟩ := List.cons.inj h
          obtain ⟨hx, hxs⟩ := List.forall_mem_cons.mp hx
          obtain ⟨hy, hys⟩ := List.forall_mem_cons.mp hy
          obtain ⟨hname, hvalue⟩ := separated_inj rfl hx hy hhead
          rw [Prod.ext hname hvalue, ih hxs hys htail]

/-- The arguments of a request whose parts can be told apart determine the request. -/
theorem JobRequest.args_inj {a b : JobRequest} {extra : List String} (ha : a.Separable)
    (hb : b.Separable) (h : a.args extra = b.args extra) : a = b := by
  obtain ⟨hfixed, hrest⟩ := List.append_inj h rfl
  obtain ⟨hevent, hworkflow, hjob, heventPath⟩ : a.event = b.event ∧
      a.workflow.text = b.workflow.text ∧ a.job = b.job ∧ a.eventPath.text = b.eventPath.text := by
    simpa using hfixed
  obtain ⟨hplatforms, hrest⟩ := flagged_append_inj (by decide) hrest
  obtain ⟨hartifacts, hrest⟩ := List.cons.inj hrest
  obtain ⟨haxes, hrest⟩ := flagged_append_inj (by decide) (List.append_cancel_left hrest)
  have henv : a.key ++ "=" ++ " ".intercalate a.names = b.key ++ "=" ++ " ".intercalate b.names :=
    (List.cons.inj hrest).1
  obtain ⟨hkey, hjoined⟩ := separated_inj rfl ha.key hb.key henv
  have hmatrix := map_axisText_inj ha.axes hb.axes haxes
  have hnames := congrArg Text.words hjoined
  rw [Text.words_intercalate ha.names, Text.words_intercalate hb.names] at hnames
  exact JobRequest.ext hevent (congrArg Path.mk hworkflow) hjob (congrArg Path.mk heventPath)
    hplatforms (congrArg Path.mk hartifacts) (NameMap.ext hmatrix) hkey hnames

/-- The arguments of two commands for a job that have the same extra ones are equal exactly if the
requests are: the event, the workflow, the job and the path of its event, all platforms in their
order, the directory for artifacts, the whole matrix, the key and all names. Nothing is asked of the
platforms, the paths and the values of the matrix, which may look like any flag. -/
theorem runJob_args_eq_iff (s t : Settings) (a b : Roster) (p q : Path)
    (hextra : s.emulator.extraArgs = t.emulator.extraArgs)
    (hs : ∀ axis ∈ s.emulator.matrix.toList, ':' ∉ axis.1.toList)
    (ht : ∀ axis ∈ t.emulator.matrix.toList, ':' ∉ axis.1.toList)
    (hskey : '=' ∉ s.workflow.key.toList) (htkey : '=' ∉ t.workflow.key.toList)
    (ha : ∀ name ∈ a.names, Text.IsWord name) (hb : ∀ name ∈ b.names, Text.IsWord name) :
    (runJob s a p).args = (runJob t b q).args ↔ jobRequest s a p = jobRequest t b q := by
  rw [args_runJob, args_runJob, hextra]
  constructor
  · exact JobRequest.args_inj ⟨hs, hskey, ha⟩ ⟨ht, htkey, hb⟩
  · intro h
    rw [h]

namespace Trial

/-- Settings with platforms and values of the matrix that may look like flags. -/
def flags (root : Path) (platforms : List String) : Settings :=
  { root
    emulator := { platforms, matrix := .ofList [("os", "--env"), ("target", "x:y")] } }

/-- A roster of one name twice. -/
def twice : Roster := ⟨["alpha", "alpha"], .root, by decide⟩

end Trial

open Trial in
/-- In the trial a platform that looks like the flag for artifacts is told apart from that flag. The
root of the workspace is not among the arguments. -/
theorem runJob_args_trial :
    (runJob (flags ⟨"/a"⟩ ["--artifact-server-path", "-P"]) twice ⟨"--matrix"⟩).args ≠
      (runJob (flags ⟨"/a"⟩ ["--artifact-server-path"]) twice ⟨"-P"⟩).args ∧
    (runJob (flags ⟨"/a"⟩ ["-P"]) twice ⟨"out"⟩).args =
      (runJob (flags ⟨"/b"⟩ ["-P"]) twice ⟨"out"⟩).args := by
  have hflag := runJob_args_eq_iff (flags ⟨"/a"⟩ ["--artifact-server-path", "-P"])
    (flags ⟨"/a"⟩ ["--artifact-server-path"]) twice twice ⟨"--matrix"⟩ ⟨"-P"⟩ rfl
    (by decide) (by decide) (by decide) (by decide) (by decide) (by decide)
  have hroot := runJob_args_eq_iff (flags ⟨"/a"⟩ ["-P"]) (flags ⟨"/b"⟩ ["-P"]) twice twice
    ⟨"out"⟩ ⟨"out"⟩ rfl (by decide) (by decide) (by decide) (by decide) (by decide) (by decide)
  exact ⟨mt hflag.mp (by decide), hroot.mpr (by decide)⟩

end LintRoster.Emulator
