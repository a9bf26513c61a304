import LintRoster.Shell.Expansion

/-!
# Redirections

A redirection connects a stream to a file, to another stream or to a text. What a stream was connected
to before is kept where it is to be put back.
-/

namespace LintRoster.Shell.Redirection

open Machine (Access)

/-- A redirection whose path is known. -/
inductive Target where
  | file (stream : Nat) (access : Access) (path : String)
  /-- Another stream, or none. -/
  | copy (stream : Nat) (source : Option Nat)
  | document (stream : Nat) (body : Word)

/-- What is said about a file that cannot be opened. -/
def openMessage (path : String) (fault : FileFault) : String :=
  let reason := if fault == .notFound || fault == .notDirectory then "No such file" else fault.summary
  "cannot open " ++ path ++ ": " ++ reason

/-- What is said about a file that cannot be made. -/
def createMessage (path : String) (fault : FileFault) : String :=
  let reason :=
    if fault == .notFound || fault == .notDirectory then "Directory nonexistent" else fault.summary
  "cannot create " ++ path ++ ": " ++ reason

/-- The stream that a word names, if it names one or none at all. -/
def sourceOf? (w : String) : Option (Option Nat) :=
  match w.toList with
  | ['-'] => some none
  | [c] => if c.isDigit then some (some (c.toNat - 0x30)) else none
  | _ => none

variable (capture : Statement → Sh String)

/-- Expands the word of a redirection. -/
def target : Redirect → Sh Target
  | .file stream access path => return .file stream access (← Expansion.text capture Aim.text path)
  | .copy stream source => return .copy stream source
  | .copyNamed stream source => do
    match sourceOf? (← Expansion.text capture Aim.text source) with
    | some source => return .copy stream source
    | none => Sh.fault "Syntax error: Bad fd number"
  | .document stream body => return .document stream body

/-- Keeps what a stream is connected to, unless it is kept already. -/
def keep (stream : Nat) : Sh Unit := do
  match (← get).saved with
  | [] => pure ()
  | frame :: _ =>
    if frame.any fun k => k.stream == stream then pure ()
    else
      let kept := (← Sh.ask (.save stream)).toOption
      modify fun s =>
        match s.saved with
        | [] => s
        | frame :: frames => { s with saved := (⟨stream, kept⟩ :: frame) :: frames }

/-- Connects a stream to what a new stream is connected to. -/
def connect (keeps : Bool) (stream new : Nat) : Sh Unit := do
  if keeps then keep stream
  discard (Sh.ask (.copy new stream))
  Sh.ask (.close new)

/-- How a file is opened for a redirection. Only with an option are files kept from being written
anew. -/
def accessFor (access : Access) : Sh Access := do
  if access == .writeNew && !(← Sh.isOn 'C') then return .write else return access

/-- Makes a redirection. -/
def apply (keeps : Bool) : Target → Sh Unit
  | .file stream access path => do
    match ← Sh.ask (.open (Glob.pathOf path) (← accessFor access)) with
    | .ok new => connect keeps stream new
    | .error fault =>
      Sh.fault (if access == .read then openMessage path fault else createMessage path fault)
  | .copy stream none => do
    if keeps then keep stream
    Sh.ask (.close stream)
  | .copy stream (some source) => do
    if source != stream then
      if keeps then keep stream
      match ← Sh.ask (.copy source stream) with
      | .ok () => pure ()
      | .error fault => Sh.fault (toString source ++ ": " ++ fault.summary)
  | .document stream body => do
    let text ← Expansion.document capture body
    let new ← Sh.ask (.document (Bytes.toBytes text))
    connect keeps stream new

/-- Begins to keep what streams are connected to. -/
def begin : Sh Unit :=
  modify fun s => { s with saved := [] :: s.saved }

/-- Puts a stream back. -/
def putBack (k : Saved) : Sh Unit := do
  match k.kept with
  | none => Sh.ask (.close k.stream)
  | some n =>
    discard (Sh.ask (.copy n k.stream))
    Sh.ask (.close n)

/-- Puts the streams back that were kept last. Where `forGood` is set, they stay as they are. -/
def undo (forGood : Bool) : Sh Unit := do
  match (← get).saved with
  | [] => pure ()
  | frame :: frames =>
    modify fun s => { s with saved := frames }
    for k in frame do
      if forGood then
        match k.kept with
        | some n => Sh.ask (.close n)
        | none => pure ()
      else putBack k

/-- The stream that traces are written to: the one for complaints, as it was before the redirections
of the present command. -/
def traceStream : Sh Nat := do
  match (← get).saved with
  | [] => return 2
  | frame :: _ => return ((frame.find? fun k => k.stream == 2).bind Saved.kept).getD 2

/-- Makes redirections. A fault is reported and gives a status, but the shell goes on. -/
def applyAll (targets : List Target) : Sh Nat := do
  match ← Sh.outcome (targets.forM (apply capture true)) with
  | .ok () => return 0
  | .error .fault => return 2
  | .error e => throw e

end LintRoster.Shell.Redirection
