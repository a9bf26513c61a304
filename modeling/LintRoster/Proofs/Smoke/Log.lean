import LintRoster.Proofs.Smoke.Verdict

/-!
# The seam of a combined log

The log of a run is its two streams with a line feed between them. A text without a line feed cannot
reach across this seam, so it is a part of the log exactly if it is a part of one of the streams.
`judge_scans_streams` says what follows for a run that is judged by signatures without line feeds.
-/

namespace LintRoster

namespace Text

variable {needle front back : List Char} {c : Char}

/-- A beginning without the first character is no more than the empty one. -/
theorem eq_nil_of_prefix_cons (hc : c ∉ needle) (h : needle <+: c :: back) : needle = [] := by
  obtain rfl | ⟨rest, rfl, -⟩ := List.prefix_cons_iff.mp h
  · rfl
  · exact absurd List.mem_cons_self hc

/-- Characters without the one at a seam occur around it exactly if they occur on one side. -/
theorem infix_append_cons_iff (hc : c ∉ needle) :
    needle <:+: front ++ c :: back ↔ needle <:+: front ∨ needle <:+: back := by
  constructor
  · intro h
    obtain hfront | hseam | ⟨left, right, rfl, hleft, hright⟩ := List.infix_append_iff.mp h
    · exact Or.inl hfront
    · obtain hstart | hback := List.infix_cons_iff.mp hseam
      · rw [eq_nil_of_prefix_cons hc hstart]
        exact Or.inl List.nil_infix
      · exact Or.inr hback
    · -- The part behind the seam would begin with the character at the seam.
      have hnone := eq_nil_of_prefix_cons (fun hmem ↦ hc (List.mem_append_right left hmem)) hright
      rw [hnone, List.append_nil]
      exact Or.inl hleft.isInfix
  · rintro (hfront | hback)
    · exact hfront.trans (List.prefix_append front _).isInfix
    · exact (hback.trans (List.suffix_cons c back).isInfix).trans
        (List.suffix_append front _).isInfix

end Text

namespace Output

/-- A text is a part of one of the streams. -/
def Shows (o : Output) (text : String) : Prop :=
  text.toList <:+: o.stdout.toList ∨ text.toList <:+: o.stderr.toList

/-- Whether a stream shows a text can be found out. -/
instance (o : Output) (text : String) : Decidable (o.Shows text) :=
  decidable_of_iff (Text.occursIn text o.stdout = true ∨ Text.occursIn text o.stderr = true)
    (or_congr Text.occursIn_iff Text.occursIn_iff)

/-- A text without a line feed is a part of the log exactly if one of the streams shows it. -/
theorem infix_combined_iff {o : Output} {text : String} (h : '\n' ∉ text.toList) :
    text.toList <:+: o.combined.toList ↔ o.Shows text := by
  have hcombined : o.combined.toList = o.stdout.toList ++ '\n' :: o.stderr.toList := by
    simp [combined]
  rw [hcombined, Text.infix_append_cons_iff h, Shows]

/-- A text with a line feed can be a part of the log that no stream shows. -/
example : Text.occursIn "a\nb" (combined ⟨some 0, "a", "b"⟩) = true ∧
    ¬ Shows ⟨some 0, "a", "b"⟩ "a\nb" := by
  decide

end Output

namespace Smoke

/-- The reason of a failure because of a signature in the log. -/
def loggedReason (signature : String) : String :=
  "act job logged forbidden output '" ++ signature ++ "'"

/-- The reason tells which signature it is about. -/
theorem loggedReason_injective : Function.Injective loggedReason := by
  intro signature signature' h
  exact String.append_right_inj _ |>.mp (String.append_left_inj _ |>.mp h)

/-- A run without artifacts fails for another reason. -/
theorem loggedReason_ne_bare (signature dir : String) :
    loggedReason signature ≠ "act did not export any artefacts to " ++ dir := by
  intro h
  have hchars : ("act job logged forbidden output '" ++ signature ++ "'").toList =
      ("act did not export any artefacts to " ++ dir).toList := congrArg String.toList h
  simp at hchars

section

variable {files : FileSystem} {dir : Path} {signatures : List String} {o : Output}

/-- Logs are clean of signatures without line feeds exactly if no stream shows one of them. -/
theorem clean_combined_iff (hlines : ∀ signature ∈ signatures, '\n' ∉ signature.toList) :
    Clean signatures o.combined ↔ ∀ signature ∈ signatures, ¬ o.Shows signature :=
  forall₂_congr fun signature hmem ↦ not_congr (Output.infix_combined_iff (hlines signature hmem))

/-- A run that ended with exit code zero fails because of a signature exactly if this is the first
one in its log. -/
theorem judge_eq_logged_iff (hexit : o.exitCode = some 0) {signature logs : String} :
    judge files o dir signatures = .error (.jobFailed (loggedReason signature) logs) ↔
      logs = o.combined ∧ ∃ earlier later, signatures = earlier ++ signature :: later ∧
        Clean earlier o.combined ∧ signature.toList <:+: o.combined.toList := by
  constructor
  · intro hjudged
    obtain ⟨artifacts, haccepted⟩ | ⟨reason, hunmet⟩ | ⟨-, hclean, fault, hfault⟩ :=
      judge_cases files dir signatures o
    · rw [judge_of_accepted haccepted] at hjudged
      cases hjudged
    · rw [judge_of_first_unmet hunmet, Except.error.injEq, Error.jobFailed.injEq] at hjudged
      obtain ⟨hreason, hlogs⟩ := hjudged
      cases hunmet with
      | exit hfailed => exact absurd hexit hfailed
      | logged earlier found later _ hsplit hclean hlogged =>
          obtain rfl := loggedReason_injective hreason
          exact ⟨hlogs.symm, earlier, later, hsplit, hclean, hlogged⟩
      | bare => exact absurd hreason.symm (loggedReason_ne_bare signature dir.text)
    · rw [judge_of_listFiles_error hexit hclean hfault] at hjudged
      cases hjudged
  · rintro ⟨rfl, earlier, later, hsplit, hclean, hlogged⟩
    exact judge_of_first_unmet (.logged earlier signature later hexit hsplit hclean hlogged)

/-- A run that ended with exit code zero and is judged by signatures without line feeds fails
because of a signature exactly if this is the first one that a stream shows. -/
theorem judge_eq_shown_iff (hexit : o.exitCode = some 0)
    (hlines : ∀ signature ∈ signatures, '\n' ∉ signature.toList) {signature logs : String} :
    judge files o dir signatures = .error (.jobFailed (loggedReason signature) logs) ↔
      logs = o.combined ∧ ∃ earlier later, signatures = earlier ++ signature :: later ∧
        o.Shows signature ∧ ∀ other ∈ earlier, ¬ o.Shows other := by
  rw [judge_eq_logged_iff hexit]
  refine and_congr_right fun _ ↦ exists₂_congr fun earlier later ↦ and_congr_right fun hsplit ↦ ?_
  have hearlier : ∀ other ∈ earlier, '\n' ∉ other.toList :=
    fun other hmem ↦ hlines other (by rw [hsplit]; exact List.mem_append_left _ hmem)
  have hsignature : '\n' ∉ signature.toList := hlines signature (by simp [hsplit])
  rw [clean_combined_iff hearlier, Output.infix_combined_iff hsignature, and_comm]

/-- A clean log is no more to a judgement than a log in which nothing is looked for. -/
theorem judge_of_clean (hexit : o.exitCode = some 0) (hclean : Clean signatures o.combined) :
    judge files o dir signatures = judge files o dir [] := by
  have hnone : Clean [] o.combined := by simp [Clean]
  cases hlisted : files.listFiles dir with
  | error fault =>
      rw [judge_of_listFiles_error hexit hclean hlisted,
        judge_of_listFiles_error hexit hnone hlisted]
  | ok artifacts =>
      rw [judge_of_listFiles_ok hexit hclean hlisted, judge_of_listFiles_ok hexit hnone hlisted]

end

/-- A run that ended with exit code zero and is judged by signatures without line feeds fails
because of a signature exactly if one of its streams shows one, and the signature in the reason is
the first that a stream shows. If no stream shows any, the judgement is the one without
signatures. -/
theorem judge_scans_streams (files : FileSystem) (dir : Path) (signatures : List String)
    (o : Output) (hexit : o.exitCode = some 0)
    (hlines : ∀ signature ∈ signatures, '\n' ∉ signature.toList) :
    ((∃ signature logs, judge files o dir signatures =
        .error (.jobFailed ("act job logged forbidden output '" ++ signature ++ "'") logs)) ↔
      ∃ signature ∈ signatures, o.Shows signature) ∧
    (∀ signature logs, judge files o dir signatures =
        .error (.jobFailed ("act job logged forbidden output '" ++ signature ++ "'") logs) ↔
      logs = o.stdout ++ "\n" ++ o.stderr ∧
      ∃ earlier later, signatures = earlier ++ signature :: later ∧
        o.Shows signature ∧ ∀ other ∈ earlier, ¬ o.Shows other) ∧
    ((∀ signature ∈ signatures, ¬ o.Shows signature) →
      judge files o dir signatures = judge files o dir []) := by
  refine ⟨?_, fun _ _ ↦ judge_eq_shown_iff hexit hlines, fun hquiet ↦ ?_⟩
  · constructor
    · rintro ⟨signature, logs, hjudged⟩
      obtain ⟨-, earlier, later, hsplit, hshown, -⟩ := (judge_eq_shown_iff hexit hlines).mp hjudged
      exact ⟨signature, by simp [hsplit], hshown⟩
    · rintro ⟨shown, hmem, hshown⟩
      cases hfound : signatures.find? fun signature ↦ Text.occursIn signature o.combined with
      | some signature =>
          obtain ⟨hlogged, earlier, later, hsplit, hclean⟩ := find_signature_eq_some.mp hfound
          exact ⟨signature, o.combined, (judge_eq_logged_iff hexit).mpr
            ⟨rfl, earlier, later, hsplit, hclean, hlogged⟩⟩
      | none =>
          have hquiet := (clean_combined_iff hlines).mp (find_signature_eq_none.mp hfound)
          exact absurd hshown (hquiet shown hmem)
  · exact judge_of_clean hexit ((clean_combined_iff hlines).mpr hquiet)

namespace Trial

/-- Three signatures, of which the streams show the second and the third. -/
def signatures : List String := ["seam crossed", "outside of workspace", "panicked"]

/-- An output whose streams spell the first signature if they are read as one text. -/
def torn : Output := ⟨some 0, "panicked outside of workspace; seam ", "crossed"⟩

end Trial

open Trial in
/-- The run of the trial fails because of the second signature of three. Of the first one, each
stream holds a part, and the log does not hold it: with this signature alone, the run is judged as
if there were none. -/
theorem judge_scans_streams_trial :
    torn.exitCode = some 0 ∧ (∀ signature ∈ signatures, '\n' ∉ signature.toList) ∧
    judge ⟨tree (.dir archive), []⟩ torn dir signatures =
      .error (.jobFailed "act job logged forbidden output 'outside of workspace'"
        "panicked outside of workspace; seam \ncrossed") ∧
    judge ⟨tree (.dir archive), []⟩ torn dir ["seam crossed"] =
      judge ⟨tree (.dir archive), []⟩ torn dir [] := by
  have hexit : torn.exitCode = some 0 := rfl
  have hlines : ∀ signature ∈ signatures, '\n' ∉ signature.toList := by decide
  refine ⟨hexit, hlines, ?_, ?_⟩
  · obtain ⟨-, hreported, -⟩ :=
      judge_scans_streams ⟨tree (.dir archive), []⟩ dir signatures torn hexit hlines
    refine (hreported "outside of workspace" _).mpr ⟨rfl, ["seam crossed"], ["panicked"], rfl, ?_⟩
    decide
  · obtain ⟨-, -, hquiet⟩ :=
      judge_scans_streams ⟨tree (.dir archive), []⟩ dir ["seam crossed"] torn hexit (by decide)
    exact hquiet (by decide)

end Smoke

end LintRoster
