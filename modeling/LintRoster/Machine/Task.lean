import LintRoster.FileSystem

/-!
# Tasks

A task is what a process still has to do: it ends, it makes a request of the machine and goes on with
the answer, or it starts a child. Tasks unfold step by step, so several of them can take turns.
Programs are written as `Work`, which is a task that waits for what comes after it.
-/

namespace LintRoster.Machine

/-- How a process ended. -/
inductive Termination where
  | exited (status : Nat)
  | killed (signal : Nat)
deriving DecidableEq, Repr

/-- How a file is opened. -/
inductive Access where
  /-- For reading what is there. -/
  | read
  /-- For writing anew. -/
  | write
  /-- For writing anew, unless a regular file is there. -/
  | writeNew
  /-- For writing at the end. -/
  | append
  /-- For reading and writing what is there. -/
  | update
deriving DecidableEq, Repr

/-- What a signal does to a process. -/
inductive Disposition where
  | usual
  | ignored
  | caught
deriving DecidableEq, Repr

/-- What came of waiting for a child. -/
inductive Waited where
  | ended (child : Nat) (how : Termination)
  | noChild
  | interrupted
deriving DecidableEq, Repr

/-- What a process may ask of the machine, with the type of the answer. Streams are named by their
numbers, processes and signals too. -/
inductive Request : Type → Type 1 where
  /-- Lets time pass that the process works. -/
  | pass (nanos : Nat) : Request Unit
  /-- Reads or changes files, seen from the directory of the process. -/
  | files {α : Type} (act : FileSystem → α × FileSystem) : Request α
  /-- Opens a file as a stream with a number that no program uses. -/
  | open (path : Path) (access : Access) : Request (Except FileFault Nat)
  /-- Opens a stream that gives some bytes. -/
  | document (bytes : List UInt8) : Request Nat
  /-- Closes a stream. -/
  | close (stream : Nat) : Request Unit
  /-- Connects the second stream to what the first one is connected to. -/
  | copy (stream target : Nat) : Request (Except FileFault Unit)
  /-- Connects a new stream to what a stream is connected to. New programs do not get it. -/
  | save (stream : Nat) : Request (Except FileFault Nat)
  /-- Opens two streams: what is written to the second one can be read from the first. -/
  | pipe : Request (Nat × Nat)
  /-- Reads up to a number of bytes. There are none at the end. -/
  | read (stream count : Nat) : Request (Except FileFault (List UInt8))
  /-- Reads up to the end of a line, or as much of it as there is. -/
  | readLine (stream : Nat) : Request (Except FileFault (List UInt8))
  /-- Writes bytes. -/
  | write (stream : Nat) (bytes : List UInt8) : Request (Except FileFault Unit)
  /-- The place of the file that a stream is connected to. -/
  | place (stream : Nat) : Request (Option (List String))
  /-- Waits until a child ends, or a certain one, possibly no longer than until a caught signal. -/
  | wait (child : Option Nat) (interruptible : Bool) : Request Waited
  /-- Asks for a child that ended, without waiting. -/
  | ended : Request (Option (Nat × Termination))
  /-- Sends a signal. Signal zero only asks whether there is such a process. -/
  | kill (target signal : Nat) : Request Bool
  /-- Sends a signal to a process and to all that descend from it. -/
  | killFamily (target signal : Nat) : Request Unit
  /-- Sends a signal to all processes. -/
  | killAll (signal : Nat) : Request Unit
  /-- Says what a signal does from now on. -/
  | dispose (signal : Nat) (d : Disposition) : Request Unit
  /-- What a signal does at present. -/
  | disposition (signal : Nat) : Request Disposition
  /-- Takes the signals that were caught. -/
  | caught : Request (List Nat)
  /-- The number of the process, and the one of its parent. -/
  | identity : Request (Nat × Nat)
  /-- Sets the mask for permissions of new files, or leaves it alone, and gives the old one. -/
  | mask (new : Option Nat) : Request Nat
  /-- Prepares the process for a new program: signals are no longer caught, and streams that new
  programs do not get are closed. -/
  | renew : Request Unit

/-- What a process still has to do. -/
inductive Task : Type 1 where
  | finish (status : Nat)
  | call {α : Type} (request : Request α) (next : α → Task)
  | fork (child : Task) (next : Nat → Task)

instance : Inhabited Task :=
  ⟨.finish 0⟩

/-- A part of what a process does, which gives a value to the rest. -/
def Work (α : Type) : Type 1 :=
  (α → Task) → Task

namespace Work

instance : Monad Work where
  pure a := fun next => next a
  bind w f := fun next => w fun a => f a next

instance {α : Type} : Inhabited (Work α) :=
  ⟨fun _ => .finish 0⟩

/-- Makes a request. -/
def ask {α : Type} (request : Request α) : Work α :=
  fun next => .call request next

/-- Starts a child, and gives its number. -/
def fork (child : Task) : Work Nat :=
  fun next => .fork child next

/-- Ends the process. -/
def exit {α : Type} (status : Nat) : Work α :=
  fun _ => .finish status

/-- The task that ends with the status that some work gives. -/
def toTask (w : Work Nat) : Task :=
  w fun status => .finish status

/-- Reads or changes files. -/
def files {α : Type} (act : FileSystem → α × FileSystem) : Work α :=
  ask (.files act)

/-- Looks at files. -/
def look {α : Type} (f : FileSystem → α) : Work α :=
  files fun fs => (f fs, fs)

/-- Changes files, if that is possible. -/
def change (f : FileSystem → Except FileFault FileSystem) : Work (Except FileFault Unit) :=
  files fun fs =>
    match f fs with
    | .ok fs => (.ok (), fs)
    | .error fault => (.error fault, fs)

/-- More rounds than any loop makes in the time that there is. -/
def rounds : Nat :=
  1000000000000

/-- How many bytes are read at a time. -/
def portion : Nat :=
  65536

/-- Reads everything from a stream, after portions that come last to first. -/
def readAllFrom (stream : Nat) :
    Nat → List (List UInt8) → Work (Except FileFault (List UInt8))
  | 0, before => pure (.ok before.reverse.flatten)
  | n + 1, before => do
    match ← ask (.read stream portion) with
    | .error fault => pure (.error fault)
    | .ok [] => pure (.ok before.reverse.flatten)
    | .ok bytes => readAllFrom stream n (bytes :: before)

/-- Reads everything from a stream. -/
def readAll (stream : Nat) : Work (Except FileFault (List UInt8)) :=
  readAllFrom stream rounds []

end Work

end LintRoster.Machine
