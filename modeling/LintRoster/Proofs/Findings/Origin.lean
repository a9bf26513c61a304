import LintRoster.Proofs.Settings.Report
import Mathlib.Data.List.Induction

/-!
# Where findings come from

Findings of several sections are collected side by side, and those at one place of the collection
can be merged into those at another one, or into themselves, at any time. `collected` is what a run
of such operations comes to. `Stems` says where an entry comes from: one that is recorded comes from
its message and the section that it is recorded in, and a copy from where the copied entry comes
from. `recording_course` is the result on runs: findings only grow, and every entry has a single
origin and is the message of it under the name of its section, once, however often it was merged.
-/

namespace LintRoster.Findings

/-! ## Operations -/

/-- The two kinds of entries. -/
inductive Kind where
  | error
  | warning
deriving DecidableEq, Repr

/-- The entries of a kind. -/
def entries (f : Findings) : Kind → List String
  | .error => f.errors
  | .warning => f.warnings

/-- What can be done with findings. A merge copies those at a place of the collection. -/
inductive Change where
  | addError (message : String)
  | addWarning (message : String)
  | requireText (field value : String)
  | requireSeconds (field : String) (seconds : Nat)
  | merge (source : Nat)
deriving DecidableEq, Repr

/-- The findings after a change. Merging from a place without findings does nothing. -/
def Change.apply (fs : List Findings) (f : Findings) : Change → Findings
  | .addError message => f.addError message
  | .addWarning message => f.addWarning message
  | .requireText field value => f.requireText field value
  | .requireSeconds field seconds => f.requireSeconds field seconds
  | .merge source => (fs[source]?).elim f f.merge

/-- An operation starts a section, which may have no name, or changes the findings at a place. -/
inductive Operation where
  | start (heading : String)
  | alter (target : Nat) (change : Change)
deriving DecidableEq, Repr

/-- The collection after an operation. Findings of a new section come last, and a change at a place
without findings does nothing. -/
def Operation.apply (fs : List Findings) : Operation → List Findings
  | .start heading => fs ++ [.ofSection heading]
  | .alter target change => fs.modify target fun f ↦ change.apply fs f

/-- The collection after some operations, one after the other, of which the first one met none. -/
def collected (ops : List Operation) : List Findings :=
  ops.foldl Operation.apply []

/-! ## What one operation does -/

/-- An origin is a message and the name of the section that it was recorded in. -/
structure Origin where
  heading : String
  message : String
deriving DecidableEq, Repr

/-- The entry of an origin: the message, under the name of the section if it has one. -/
def Origin.entry (o : Origin) : String :=
  if o.heading = "" then o.message else o.heading ++ "." ++ o.message

/-- `change.Records kind message` says a change records a message of the kind. -/
inductive Change.Records : Change → Kind → String → Prop where
  | error (message) : Records (.addError message) .error message
  | warning (message) : Records (.addWarning message) .warning message
  | text (field value) :
      Text.AllBlank value.toList →
      Records (.requireText field value) .error (field ++ " cannot be empty")
  | seconds (field) : Records (.requireSeconds field 0) .error (field ++ " must be at least 1")

/-- `change.Adds fs heading kind added` says what a change adds to the entries of the kind, in a
collection and in a section of the given name. -/
inductive Change.Adds (fs : List Findings) (heading : String) (kind : Kind) :
    Change → List String → Prop where
  | record (change message) :
      change.Records kind message →
      Adds fs heading kind change [Origin.entry ⟨heading, message⟩]
  | merge (source other) :
      fs[source]? = some other → Adds fs heading kind (.merge source) (other.entries kind)
  | nothing (change) :
      (∀ message, ¬ change.Records kind message) →
      (∀ source other, fs[source]? = some other → change ≠ .merge source) →
      Adds fs heading kind change []

/-- A message is put under the name of its section as in the entry of its origin. -/
theorem qualify_eq_entry (f : Findings) (message : String) :
    f.qualify message = Origin.entry ⟨f.heading, message⟩ := by
  simp [qualify, Origin.entry]

namespace Change

variable {fs : List Findings} {f other : Findings} {change : Change} {kind : Kind}

/-- No change takes the name of a section away. -/
theorem heading_apply : (change.apply fs f).heading = f.heading := by
  cases change with
  | addError | addWarning => rfl
  | requireText =>
      rw [apply, Findings.requireText]
      split <;> rfl
  | requireSeconds =>
      rw [apply, Findings.requireSeconds]
      split <;> rfl
  | merge source =>
      rw [apply]
      cases fs[source]? <;> rfl

/-- A change records one message of a kind at most. -/
theorem Records.unique {message message' : String} (h : change.Records kind message)
    (h' : change.Records kind message') : message = message' := by
  cases h <;> cases h' <;> rfl

/-- A message that is recorded comes after all entries of its kind. -/
theorem Records.entries_apply {message : String} (h : change.Records kind message) :
    (change.apply fs f).entries kind = f.entries kind ++ [Origin.entry ⟨f.heading, message⟩] := by
  rw [← qualify_eq_entry]
  cases h with
  | error | warning | seconds => rfl
  | text field value hblank =>
      rw [apply, Findings.requireText, if_pos (Text.isBlankText_iff.mpr hblank)]
      rfl

/-- A merge puts the entries of the other findings, as they are, after those that are there. -/
theorem apply_merge {source : Nat} (h : fs[source]? = some other) :
    (merge source).apply fs f =
      ⟨f.heading, f.errors ++ other.errors, f.warnings ++ other.warnings⟩ := by
  rw [apply, h]
  rfl

/-- A merge adds the entries of each kind to those of the same kind. -/
theorem entries_apply_merge {source : Nat} (h : fs[source]? = some other) :
    ((merge source).apply fs f).entries kind = f.entries kind ++ other.entries kind := by
  rw [apply_merge h]
  cases kind <;> rfl

/-- A change that records no message of a kind, and merges nothing, leaves the entries of the kind
as they are. -/
theorem entries_apply_of_nothing (hrecords : ∀ message, ¬ change.Records kind message)
    (hmerge : ∀ source other, fs[source]? = some other → change ≠ .merge source) :
    (change.apply fs f).entries kind = f.entries kind := by
  cases change with
  | addError message =>
      cases kind with
      | error => exact absurd (.error message) (hrecords message)
      | warning => rfl
  | addWarning message =>
      cases kind with
      | error => rfl
      | warning => exact absurd (.warning message) (hrecords message)
  | requireText field value =>
      rw [apply, Findings.requireText]
      split
      · next hblank =>
          cases kind with
          | error => exact absurd (.text field value (Text.isBlankText_iff.mp hblank)) (hrecords _)
          | warning => rfl
      · rfl
  | requireSeconds field seconds =>
      rw [apply, Findings.requireSeconds]
      split
      · next hzero =>
          obtain rfl : seconds = 0 := beq_iff_eq.mp hzero
          cases kind with
          | error => exact absurd (.seconds field) (hrecords _)
          | warning => rfl
      · rfl
  | merge source =>
      cases hsource : fs[source]? with
      | none => rw [apply, hsource, Option.elim_none]
      | some other => exact absurd rfl (hmerge source other hsource)

/-- What a change adds to the entries of a kind comes after all of them. -/
theorem exists_adds (change : Change) (fs : List Findings) (f : Findings) (kind : Kind) :
    ∃ added, change.Adds fs f.heading kind added ∧
      (change.apply fs f).entries kind = f.entries kind ++ added := by
  by_cases hrecords : ∃ message, change.Records kind message
  · obtain ⟨message, hmessage⟩ := hrecords
    exact ⟨_, .record change message hmessage, hmessage.entries_apply⟩
  by_cases hmerge : ∃ source other, fs[source]? = some other ∧ change = .merge source
  · obtain ⟨source, other, hsource, rfl⟩ := hmerge
    exact ⟨_, .merge source other hsource, entries_apply_merge hsource⟩
  · push Not at hrecords hmerge
    refine ⟨[], .nothing change hrecords hmerge, ?_⟩
    rw [List.append_nil, entries_apply_of_nothing hrecords hmerge]

end Change

/-! ## Runs of operations -/

/-- The other findings have the same name, and the entries of these come first among theirs. -/
structure GrowsTo (f g : Findings) : Prop where
  heading_eq : g.heading = f.heading
  isPrefix : ∀ kind, f.entries kind <+: g.entries kind

namespace GrowsTo

variable {f g k : Findings}

/-- Findings that are left alone grow to themselves. -/
theorem refl (f : Findings) : f.GrowsTo f :=
  ⟨rfl, fun _ ↦ List.prefix_rfl⟩

/-- What findings grow to can grow further. -/
theorem trans (hfg : f.GrowsTo g) (hgk : g.GrowsTo k) : f.GrowsTo k :=
  ⟨hgk.heading_eq.trans hfg.heading_eq, fun kind ↦ (hfg.isPrefix kind).trans (hgk.isPrefix kind)⟩

/-- Entries stay where they are while findings grow. -/
theorem getElem?_eq {kind : Kind} {n : Nat} {entry : String} (h : f.GrowsTo g)
    (hentry : (f.entries kind)[n]? = some entry) : (g.entries kind)[n]? = some entry := by
  obtain ⟨added, hadded⟩ := h.isPrefix kind
  rw [← hadded, List.getElem?_append_left (List.getElem?_eq_some_iff.mp hentry).1, hentry]

/-- Findings grow to what a change makes of them. -/
theorem of_change (change : Change) (fs : List Findings) : f.GrowsTo (change.apply fs f) where
  heading_eq := Change.heading_apply
  isPrefix kind := by
    obtain ⟨added, -, hentries⟩ := change.exists_adds fs f kind
    exact ⟨added, hentries.symm⟩

end GrowsTo

section Runs

variable {ops : List Operation} {target i : Nat} {change : Change} {f : Findings}

/-- The last operation of a run is applied to what those before it come to. -/
theorem collected_concat (ops : List Operation) (op : Operation) :
    collected (ops ++ [op]) = op.apply (collected ops) := by
  rw [collected, List.foldl_concat, collected]

/-- A section that is started last comes last in the collection. -/
theorem collected_start (ops : List Operation) (heading : String) :
    collected (ops ++ [.start heading]) = collected ops ++ [ofSection heading] :=
  collected_concat ops _

/-- The findings that a change is applied to are what the change makes of them. -/
theorem getElem?_alter_self (h : (collected ops)[target]? = some f) :
    (collected (ops ++ [.alter target change]))[target]? =
      some (change.apply (collected ops) f) := by
  rw [collected_concat, Operation.apply, List.getElem?_modify_eq, h]
  rfl

/-- A change leaves the findings at every other place alone. -/
theorem getElem?_alter_other (h : i ≠ target) :
    (collected (ops ++ [.alter target change]))[i]? = (collected ops)[i]? := by
  rw [collected_concat, Operation.apply, List.getElem?_modify_ne _ _ h.symm]

/-- Findings stay at their place, and one more operation only lets them grow. -/
theorem exists_growsTo_concat (op : Operation) (h : (collected ops)[i]? = some f) :
    ∃ g, (collected (ops ++ [op]))[i]? = some g ∧ f.GrowsTo g := by
  cases op with
  | start heading =>
      refine ⟨f, ?_, .refl f⟩
      rw [collected_start, List.getElem?_append_left (List.getElem?_eq_some_iff.mp h).1, h]
  | alter target change =>
      by_cases hi : i = target
      · subst hi
        exact ⟨_, getElem?_alter_self h, .of_change change _⟩
      · exact ⟨f, by rw [getElem?_alter_other hi, h], .refl f⟩

/-- Findings stay at their place, and more operations only let them grow. -/
theorem exists_growsTo_append (later : List Operation) (h : (collected ops)[i]? = some f) :
    ∃ g, (collected (ops ++ later))[i]? = some g ∧ f.GrowsTo g := by
  induction later generalizing ops f with
  | nil => exact ⟨f, by rwa [List.append_nil], .refl f⟩
  | cons op later ih =>
      obtain ⟨g, hg, hfg⟩ := exists_growsTo_concat op h
      obtain ⟨k, hk, hgk⟩ := ih hg
      exact ⟨k, by rwa [List.append_cons], hfg.trans hgk⟩

/-- Findings after an operation are those that were there before, those of a section that it
started, or what it made of those that were there. -/
theorem findings_cases {op : Operation} (h : (collected (ops ++ [op]))[i]? = some f) :
    (collected ops)[i]? = some f ∨ (∃ heading, op = .start heading ∧ f = ofSection heading) ∨
    ∃ change g, op = .alter i change ∧ (collected ops)[i]? = some g ∧
      f = change.apply (collected ops) g := by
  cases op with
  | start heading =>
      rw [collected_start, List.getElem?_append] at h
      split at h
      · exact .inl h
      · exact .inr (.inl ⟨heading, rfl, by simpa using List.mem_of_getElem? h⟩)
  | alter target change =>
      by_cases hi : i = target
      · subst hi
        rw [collected_concat, Operation.apply, List.getElem?_modify_eq] at h
        obtain ⟨g, hg, rfl⟩ := Option.map_eq_some_iff.mp h
        exact .inr (.inr ⟨change, g, rfl, hg, rfl⟩)
      · rw [getElem?_alter_other hi] at h
        exact .inl h

/-- An entry after an operation was there before, or the operation changed the findings and added
it. -/
theorem entry_cases {op : Operation} {kind : Kind} {n : Nat} {entry : String}
    (hf : (collected (ops ++ [op]))[i]? = some f) (hentry : (f.entries kind)[n]? = some entry) :
    (∃ g, (collected ops)[i]? = some g ∧ (g.entries kind)[n]? = some entry) ∨
    ∃ change g m added, op = .alter i change ∧ (collected ops)[i]? = some g ∧
      change.Adds (collected ops) g.heading kind added ∧ n = (g.entries kind).length + m ∧
      added[m]? = some entry := by
  obtain hsame | ⟨heading, -, rfl⟩ | ⟨change, g, rfl, hg, rfl⟩ := findings_cases hf
  · exact .inl ⟨f, hsame, hentry⟩
  · -- The findings of a new section have no entries.
    cases kind <;> cases hentry
  · obtain ⟨added, hadds, hadded⟩ := change.exists_adds (collected ops) g kind
    rw [hadded, List.getElem?_append] at hentry
    split at hentry
    · exact .inl ⟨g, hg, hentry⟩
    · next hn =>
        obtain ⟨m, rfl⟩ := Nat.exists_eq_add_of_le (Nat.le_of_not_lt hn)
        rw [Nat.add_sub_cancel_left] at hentry
        exact .inr ⟨change, g, m, added, rfl, hg, hadds, rfl, hentry⟩

end Runs

/-! ## Origins -/

/-- `Stems ops kind i n o` says that after a run, entry `n` of the kind in the findings at place `i`
comes from the origin: it was recorded there, or it is a copy of an entry that came from the origin
when it was merged, or it was there before the last operation. -/
inductive Stems : List Operation → Kind → Nat → Nat → Origin → Prop where
  | recorded (ops target change kind message f) :
      (collected ops)[target]? = some f → change.Records kind message →
      Stems (ops ++ [.alter target change]) kind target (f.entries kind).length
        ⟨f.heading, message⟩
  | copied (ops target source kind n f o) :
      (collected ops)[target]? = some f → Stems ops kind source n o →
      Stems (ops ++ [.alter target (.merge source)]) kind target ((f.entries kind).length + n) o
  | kept (ops op kind i n o) : Stems ops kind i n o → Stems (ops ++ [op]) kind i n o

namespace Stems

variable {ops : List Operation} {op : Operation} {kind : Kind} {i n : Nat} {o : Origin}

/-- An entry with an origin after a run had it before the last operation, or was recorded or copied
by this one. -/
theorem concat_cases (h : Stems (ops ++ [op]) kind i n o) :
    Stems ops kind i n o ∨
    (∃ change message f, op = .alter i change ∧ (collected ops)[i]? = some f ∧
      change.Records kind message ∧ n = (f.entries kind).length ∧ o = ⟨f.heading, message⟩) ∨
    ∃ source m f, op = .alter i (.merge source) ∧ (collected ops)[i]? = some f ∧
      n = (f.entries kind).length + m ∧ Stems ops kind source m o := by
  generalize hrun : ops ++ [op] = run at h
  cases h with
  | recorded ops' target change kind message f hf hrecords =>
      obtain ⟨rfl, rfl⟩ := List.concat_inj.mp (by simpa using hrun)
      exact .inr (.inl ⟨change, message, f, rfl, hf, hrecords, rfl, rfl⟩)
  | copied ops' target source kind m f o hf hm =>
      obtain ⟨rfl, rfl⟩ := List.concat_inj.mp (by simpa using hrun)
      exact .inr (.inr ⟨source, m, f, rfl, hf, rfl, hm⟩)
  | kept ops' op' kind i n o hn =>
      obtain ⟨rfl, rfl⟩ := List.concat_inj.mp (by simpa using hrun)
      exact .inl hn

/-- What comes from an origin is the entry of the origin. -/
theorem getElem?_eq (h : Stems ops kind i n o) :
    ∃ f, (collected ops)[i]? = some f ∧ (f.entries kind)[n]? = some o.entry := by
  induction h with
  | recorded ops target change kind message f hf hrecords =>
      refine ⟨_, getElem?_alter_self hf, ?_⟩
      rw [hrecords.entries_apply, List.getElem?_concat_length]
  | copied ops target source kind m f o hf _ ih =>
      obtain ⟨other, hother, hentry⟩ := ih
      refine ⟨_, getElem?_alter_self hf, ?_⟩
      rw [Change.entries_apply_merge hother, List.getElem?_append_right (Nat.le_add_right _ _),
        Nat.add_sub_cancel_left, hentry]
  | kept ops op kind i n o _ ih =>
      obtain ⟨f, hf, hentry⟩ := ih
      obtain ⟨g, hg, hfg⟩ := exists_growsTo_concat op hf
      exact ⟨g, hg, hfg.getElem?_eq hentry⟩

/-- What comes from an origin stands among the entries. -/
theorem lt_length {f : Findings} (h : Stems ops kind i n o) (hf : (collected ops)[i]? = some f) :
    n < (f.entries kind).length := by
  obtain ⟨g, hg, hentry⟩ := h.getElem?_eq
  cases hf.symm.trans hg
  exact (List.getElem?_eq_some_iff.mp hentry).1

/-- An entry comes from one origin only. -/
theorem unique {other : Origin} (h : Stems ops kind i n o) (hother : Stems ops kind i n other) :
    other = o := by
  -- Entries that were kept stand in front of those that were added, so both origins of an entry
  -- come from the same case.
  induction h generalizing other with
  | recorded ops target change kind message f hf hrecords =>
      obtain hkept | ⟨_, message', f', hop, hf', hrecords', -, rfl⟩ | ⟨source, m, f', hop, -⟩ :=
        hother.concat_cases
      · exact absurd (hkept.lt_length hf) (Nat.lt_irrefl _)
      · cases hop
        cases hf.symm.trans hf'
        rw [hrecords.unique hrecords']
      · cases hop
        cases hrecords
  | copied ops target source kind m f o hf _ ih =>
      obtain hkept | ⟨change, message, f', hop, -, hrecords, -⟩ | ⟨_, m', f', hop, hf', hn, hm'⟩ :=
        hother.concat_cases
      · exact absurd (hkept.lt_length hf) (Nat.not_lt.mpr (Nat.le_add_right _ _))
      · cases hop
        cases hrecords
      · cases hop
        cases hf.symm.trans hf'
        obtain rfl : m = m' := Nat.add_left_cancel hn
        exact ih hm'
  | kept ops op kind i n o hkept ih =>
      obtain hsame | ⟨change, message, f, -, hf, -, rfl, -⟩ | ⟨source, m, f, -, hf, rfl, -⟩ :=
        hother.concat_cases
      · exact ih hsame
      · exact absurd (hkept.lt_length hf) (Nat.lt_irrefl _)
      · exact absurd (hkept.lt_length hf) (Nat.not_lt.mpr (Nat.le_add_right _ _))

/-- The message of an origin was recorded by an operation of the run, in a section of the name that
the origin has. -/
theorem exists_recorded (h : Stems ops kind i n o) :
    ∃ earlier target change later home, ops = earlier ++ .alter target change :: later ∧
      (collected earlier)[target]? = some home ∧ home.heading = o.heading ∧
      change.Records kind o.message := by
  induction h with
  | recorded ops target change kind message f hf hrecords =>
      exact ⟨ops, target, change, [], f, rfl, hf, rfl, hrecords⟩
  | copied ops target source kind m f o _ _ ih =>
      obtain ⟨earlier, origin, change, later, home, rfl, hhome, hheading, hrecords⟩ := ih
      exact ⟨earlier, origin, change, later ++ [.alter target (.merge source)], home, by simp,
        hhome, hheading, hrecords⟩
  | kept ops op kind i n o _ ih =>
      obtain ⟨earlier, origin, change, later, home, rfl, hhome, hheading, hrecords⟩ := ih
      exact ⟨earlier, origin, change, later ++ [op], home, by simp, hhome, hheading, hrecords⟩

end Stems

/-- Every entry comes from an origin. -/
theorem exists_stems (ops : List Operation) {kind : Kind} {i n : Nat} {f : Findings}
    {entry : String} (hf : (collected ops)[i]? = some f)
    (hentry : (f.entries kind)[n]? = some entry) : ∃ o, Stems ops kind i n o := by
  induction ops using List.reverseRecOn generalizing i n f with
  | nil => cases hf
  | append_singleton ops op ih =>
      obtain ⟨g, hg, hbefore⟩ | ⟨change, g, m, added, rfl, hg, hadds, rfl, hm⟩ :=
        entry_cases hf hentry
      · obtain ⟨o, ho⟩ := ih hg hbefore
        exact ⟨o, .kept ops op kind i n o ho⟩
      · cases hadds with
        | record _ message hrecords =>
            obtain rfl : m = 0 := by simpa using (List.getElem?_eq_some_iff.mp hm).1
            exact ⟨_, .recorded ops i change kind message g hg hrecords⟩
        | merge source other hother =>
            obtain ⟨o, ho⟩ := ih hother hm
            exact ⟨o, .copied ops i source kind m g o hg ho⟩
        | nothing => cases hm

/-! ## The course of a run -/

/-- Findings are refused exactly if there is an error among them. -/
theorem result_eq_error_iff {f : Findings} :
    (∃ error, f.result = .error error) ↔ f.errors ≠ [] := by
  rw [result_eq]
  split
  · next h => simp [h]
  · next h => simp [h]

/-- In every run of operations on a collection of findings, each operation changes at most the
findings that it is applied to: it starts a section, or adds entries after those that are there, and
leaves the name of the section. A merge adds the entries of its source as they are then, whether or
not the source is the target. So over any number of operations findings only grow at the end. Every
entry comes from a single origin: it is a message that an operation of the run recorded in a
section, under the name of this section, once, or bare if the section has none. Findings are refused
exactly if they have an error. -/
theorem recording_course (ops : List Operation) :
    (∀ heading, collected (ops ++ [.start heading]) = collected ops ++ [ofSection heading]) ∧
    (∀ target change i, i ≠ target →
      (collected (ops ++ [.alter target change]))[i]? = (collected ops)[i]?) ∧
    (∀ target change f, (collected ops)[target]? = some f →
      ∃ g, (collected (ops ++ [.alter target change]))[target]? = some g ∧
        g.heading = f.heading ∧
        ∀ kind, ∃ added, change.Adds (collected ops) f.heading kind added ∧
          g.entries kind = f.entries kind ++ added) ∧
    (∀ target source f other,
      (collected ops)[target]? = some f → (collected ops)[source]? = some other →
      (collected (ops ++ [.alter target (.merge source)]))[target]? =
        some ⟨f.heading, f.errors ++ other.errors, f.warnings ++ other.warnings⟩) ∧
    (∀ (later : List Operation) (i : Nat) f, (collected ops)[i]? = some f →
      ∃ g, (collected (ops ++ later))[i]? = some g ∧ g.heading = f.heading ∧
        f.errors <+: g.errors ∧ f.warnings <+: g.warnings) ∧
    (∀ (i : Nat) f kind n entry, (collected ops)[i]? = some f → (f.entries kind)[n]? = some entry →
      ∃ o, Stems ops kind i n o ∧ entry = o.entry ∧
        (∀ other, Stems ops kind i n other → other = o) ∧
        ∃ earlier target change later home, ops = earlier ++ .alter target change :: later ∧
          (collected earlier)[target]? = some home ∧ home.heading = o.heading ∧
          change.Records kind o.message) ∧
    ∀ f ∈ collected ops, (∃ error, f.result = .error error) ↔ f.errors ≠ [] := by
  refine ⟨collected_start ops, fun _ _ _ h ↦ getElem?_alter_other h, ?_, ?_, ?_, ?_,
    fun _ _ ↦ result_eq_error_iff⟩
  · intro target change f hf
    exact ⟨_, getElem?_alter_self hf, Change.heading_apply, change.exists_adds _ f⟩
  · intro target source f other hf hother
    rw [getElem?_alter_self hf, Change.apply_merge hother]
  · intro later i f hf
    obtain ⟨g, hg, hgrows⟩ := exists_growsTo_append later hf
    exact ⟨g, hg, hgrows.heading_eq, hgrows.isPrefix .error, hgrows.isPrefix .warning⟩
  · intro i f kind n entry hf hentry
    obtain ⟨o, ho⟩ := exists_stems ops hf hentry
    obtain ⟨f', hf', hentry'⟩ := ho.getElem?_eq
    cases hf.symm.trans hf'
    exact ⟨o, ho, Option.some.inj (hentry.symm.trans hentry'), fun _ ↦ ho.unique,
      ho.exists_recorded⟩

namespace Trial

/-- A run in which a section without a name takes over an error, merges itself and is merged into
the section that the error came from. -/
def merges : List Operation :=
  [.start "emulator", .start "", .alter 0 (.requireText "binary" "\u3000"),
    .alter 1 (.addWarning "odd"), .alter 1 (.merge 0), .alter 1 (.merge 1), .alter 0 (.merge 1),
    .alter 0 (.requireSeconds "run_timeout_secs" 0)]

/-- What the section with a name has in the end. -/
def merged : Findings where
  heading := "emulator"
  errors := ["emulator.binary cannot be empty", "emulator.binary cannot be empty",
    "emulator.binary cannot be empty", "emulator.run_timeout_secs must be at least 1"]
  warnings := ["odd", "odd"]

end Trial

open Trial in
/-- In the run of the trial the named section ends with three copies of its first error, none of
which is qualified twice, and with the warnings of the other section, which are not qualified. -/
theorem recording_course_trial :
    (collected merges)[0]? = some merged ∧
    (∃ o, Stems merges .error 0 2 o ∧ "emulator.binary cannot be empty" = o.entry) ∧
    (∃ o, Stems merges .warning 0 1 o ∧ "odd" = o.entry) ∧
    ∃ error, merged.result = .error error := by
  have hmerged : (collected merges)[0]? = some merged := by decide
  obtain ⟨-, -, -, -, -, horigin, hresult⟩ := recording_course merges
  obtain ⟨o, herror, hentry, -⟩ := horigin 0 merged .error 2 _ hmerged rfl
  obtain ⟨o', hwarning, hentry', -⟩ := horigin 0 merged .warning 1 _ hmerged rfl
  refine ⟨hmerged, ⟨o, herror, hentry⟩, ⟨o', hwarning, hentry'⟩, ?_⟩
  exact (hresult merged (List.mem_of_getElem? hmerged)).mpr (by decide)

end LintRoster.Findings
