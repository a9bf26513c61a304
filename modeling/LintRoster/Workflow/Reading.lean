import LintRoster.Workflow
import LintRoster.Yaml.Document
import LintRoster.Yaml.Scalar

/-!
# Workflows in YAML documents

`Workflow.ofDocument?` reads a workflow from a document. Where a workflow, its jobs or a job are
expected, a mapping is read entry by entry, an empty plain scalar counts as an empty mapping, and
anything else is refused; unknown keys are skipped unread. Environments are read as values.

Two bounds keep the reading of anchors in check. Collections may be nested to a fixed depth, which
also stops an anchor that contains itself, and aliases may be followed a number of times that
depends on the length of the document.
-/

namespace LintRoster.Yaml

namespace Tree

/-- How deep collections may be nested. -/
def depthLimit : Nat := 128

/-- How many aliases may be followed for each part of a document. -/
def aliasesPerPart : Nat := 100

/-- Follows an alias, at the cost of one of the `jumps` that are left. A node that is no alias is
its own meaning. -/
def follow (anchors : Anchors) (jumps : Nat) : Tree → Except Fault (Tree × Nat)
  | .alias number =>
    match jumps with
    | 0 => .error .tooManyAliases
    | jumps + 1 =>
      match anchors.tree? number with
      | some t => .ok (t, jumps)
      | none => .error .unknownAnchor
  | t => .ok (t, jumps)

/-- Reads trees one after the other. -/
def readItems (read : Nat → Tree → Except Fault (Value × Nat)) :
    Nat → List Tree → Except Fault (List Value × Nat)
  | jumps, [] => .ok ([], jumps)
  | jumps, t :: ts =>
    match read jumps t with
    | .error e => .error e
    | .ok (v, jumps) =>
      match readItems read jumps ts with
      | .error e => .error e
      | .ok (vs, jumps) => .ok (v :: vs, jumps)

/-- Reads the entries of a mapping after those in `seen`. No key may be read twice. -/
def readEntries (read : Nat → Tree → Except Fault (Value × Nat)) (seen : List (Value × Value)) :
    Nat → List (Tree × Tree) → Except Fault (List (Value × Value) × Nat)
  | jumps, [] => .ok (seen, jumps)
  | jumps, (key, value) :: rest =>
    match read jumps key with
    | .error e => .error e
    | .ok (k, jumps) =>
      if seen.any fun entry => k.sameKey entry.1 then .error .duplicateKey
      else
        match read jumps value with
        | .error e => .error e
        | .ok (v, jumps) => readEntries read (seen ++ [(k, v)]) jumps rest

/-- A collection's value under the collection's tag, if that tag makes tagged values. -/
def underTag (tag : Option String) (v : Value) : Value :=
  match tag.bind Scalar.shownTag? with
  | some shown => .tagged shown v
  | none => v

/-- The value of a tree whose collections are nested at most `depth` deep. -/
def value (anchors : Anchors) : Nat → Nat → Tree → Except Fault (Value × Nat)
  | depth, jumps, t =>
    match follow anchors jumps t with
    | .error e => .error e
    | .ok (.scalar tag text plain, jumps) =>
      (Scalar.value tag text plain).map fun v => (v, jumps)
    | .ok (.seq tag items, jumps) =>
      match depth with
      | 0 => .error .tooDeep
      | depth + 1 =>
        (readItems (value anchors depth) jumps items).map fun (vs, jumps) =>
          (underTag tag (.seq vs), jumps)
    | .ok (.map tag entries, jumps) =>
      match depth with
      | 0 => .error .tooDeep
      | depth + 1 =>
        (readEntries (value anchors depth) [] jumps entries).map fun (es, jumps) =>
          (underTag tag (.map es), jumps)
    | .ok (.alias _, _) => .error .unknownAnchor

/-- The name that a key gives to a field: the text of a scalar, however it is written. -/
def fieldName (anchors : Anchors) (jumps : Nat) (t : Tree) : Except Fault (String × Nat) :=
  match follow anchors jumps t with
  | .error e => .error e
  | .ok (.scalar _ text _, jumps) => .ok (text, jumps)
  | .ok _ => .error .unexpectedValue

/-- The entries of a tree in a place where fields are expected. -/
def fields (anchors : Anchors) (jumps : Nat) (t : Tree) :
    Except Fault (List (Tree × Tree) × Nat) :=
  match follow anchors jumps t with
  | .error e => .error e
  | .ok (.map _ entries, jumps) => .ok (entries, jumps)
  | .ok (.scalar _ text plain, jumps) =>
    if plain && text == "" then .ok ([], jumps) else .error .unexpectedValue
  | .ok _ => .error .unexpectedValue

/-- Whether a scalar in the place of an optional value stands for none. -/
def isAbsent (tag : Option String) (text : String) (plain : Bool) : Except Fault Bool :=
  if !plain then .ok false
  else
    match tag with
    | none => .ok (text == "" || Scalar.isNullName text)
    | some tag =>
      if tag != Scalar.nullTag then .ok false
      else if Scalar.isNullName text then .ok true
      else .error .valueOutOfRange

/-- The value of a tree in the place of an optional value. -/
def value? (anchors : Anchors) (depth jumps : Nat) (t : Tree) :
    Except Fault (Option Value × Nat) :=
  match follow anchors jumps t with
  | .error e => .error e
  | .ok (t, jumps) =>
    let present := (value anchors depth jumps t).map fun (v, jumps) => (some v, jumps)
    match t with
    | .scalar tag text plain =>
      match isAbsent tag text plain with
      | .error e => .error e
      | .ok true => .ok (none, jumps)
      | .ok false => present
    | _ => present

end Tree

end LintRoster.Yaml

namespace LintRoster

open Yaml (Anchors Fault Tree)

namespace Job

/-- Reads the fields of a job. Only the environment matters, and it may be given once. -/
def readFields (anchors : Anchors) (depth : Nat) :
    Option (Option Yaml.Value) → Nat → List (Tree × Tree) → Except Fault (Job × Nat)
  | env, jumps, [] => .ok (⟨env.join⟩, jumps)
  | env, jumps, (key, value) :: rest =>
    match Tree.fieldName anchors jumps key with
    | .error e => .error e
    | .ok (name, jumps) =>
      if name == "env" then
        if env.isSome then .error .duplicateKey
        else
          match Tree.value? anchors depth jumps value with
          | .error e => .error e
          | .ok (v, jumps) => readFields anchors depth (some v) jumps rest
      else readFields anchors depth env jumps rest

/-- Reads a job. -/
def ofTree? (anchors : Anchors) (depth jumps : Nat) (t : Tree) : Except Fault (Job × Nat) :=
  match Tree.fields anchors jumps t with
  | .error e => .error e
  | .ok (entries, jumps) => readFields anchors depth none jumps entries

end Job

namespace Workflow

/-- Reads jobs by name. Of two jobs with one name the later one counts. -/
def readJobs (anchors : Anchors) (depth : Nat) :
    NameMap Job → Nat → List (Tree × Tree) → Except Fault (NameMap Job × Nat)
  | jobs, jumps, [] => .ok (jobs, jumps)
  | jobs, jumps, (key, value) :: rest =>
    match Tree.fieldName anchors jumps key with
    | .error e => .error e
    | .ok (name, jumps) =>
      match Job.ofTree? anchors depth jumps value with
      | .error e => .error e
      | .ok (job, jumps) => readJobs anchors depth (jobs.insert name job) jumps rest

/-- What was read of a workflow so far. -/
structure Draft where
  env : Option (Option Yaml.Value)
  jobs : Option (NameMap Job)

/-- The workflow of the fields that were read. -/
def Draft.finish (p : Draft) : Workflow :=
  ⟨p.env.join, p.jobs.getD .empty⟩

/-- How deep collections may be nested below a workflow, below its jobs and below one job. -/
def depthBelow : Nat := Tree.depthLimit - 1

/-- Reads the fields of a workflow. The environment and the jobs may each be given once. -/
def readFields (anchors : Anchors) :
    Draft → Nat → List (Tree × Tree) → Except Fault Workflow
  | p, _, [] => .ok p.finish
  | p, jumps, (key, value) :: rest =>
    match Tree.fieldName anchors jumps key with
    | .error e => .error e
    | .ok (name, jumps) =>
      if name == "env" then
        if p.env.isSome then .error .duplicateKey
        else
          match Tree.value? anchors depthBelow jumps value with
          | .error e => .error e
          | .ok (v, jumps) => readFields anchors { p with env := some v } jumps rest
      else if name == "jobs" then
        if p.jobs.isSome then .error .duplicateKey
        else
          match Tree.fields anchors jumps value with
          | .error e => .error e
          | .ok (entries, jumps) =>
            match readJobs anchors (depthBelow - 2) .empty jumps entries with
            | .error e => .error e
            | .ok (jobs, jumps) => readFields anchors { p with jobs := some jobs } jumps rest
      else readFields anchors p jumps rest

/-- Reads a workflow from a document. An empty document is a workflow that declares nothing. -/
def ofDocument? (doc : Yaml.Document) : Except Fault Workflow :=
  match doc.root with
  | none => .ok .empty
  | some root =>
    let jumps := Tree.aliasesPerPart * doc.anchors.parts
    match Tree.fields doc.anchors jumps root with
    | .error e => .error e
    | .ok (entries, jumps) => readFields doc.anchors ⟨none, none⟩ jumps entries

/-- Reads a workflow from a text. -/
def ofText? (text : String) : Except Fault Workflow := do
  ofDocument? (← Yaml.Document.ofText? text)

end Workflow

end LintRoster
