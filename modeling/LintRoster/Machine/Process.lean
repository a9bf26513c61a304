import LintRoster.Machine.Task

/-!
# Processes and resources

A process is a task with its streams, its directory, its clock and what signals do to it. A stream is
connected to a resource: a file with a position in it, an end of a pipe, a sink that collects output,
or nothing. Several streams, also of several processes, may share one resource.
-/

namespace LintRoster.Machine

/-- What was written to a pipe and not yet read. What comes last is kept in pieces, the last one
first. -/
structure Pipe where
  front : List UInt8
  back : List (List UInt8)
  size : Nat

namespace Pipe

/-- How much a pipe holds before writers have to wait. -/
def capacity : Nat :=
  65536

/-- A pipe that holds some bytes. -/
def ofBytes (bytes : List UInt8) : Pipe :=
  ⟨bytes, [], bytes.length⟩

/-- A pipe after bytes were written to it. -/
def push (bytes : List UInt8) (p : Pipe) : Pipe :=
  { p with back := bytes :: p.back, size := p.size + bytes.length }

/-- A pipe with all that it holds in one piece. -/
def gather (p : Pipe) : Pipe :=
  if p.back.isEmpty then p else { p with front := p.front ++ p.back.reverse.flatten, back := [] }

/-- What is cut off from the bytes of a gathered pipe, and the pipe without it. -/
def take (cut : List UInt8 → List UInt8) (p : Pipe) : List UInt8 × Pipe :=
  let taken := cut p.front
  (taken, { p with front := p.front.drop taken.length, size := p.size - taken.length })

/-- Whether a pipe holds the end of a line. -/
def hasLine (p : Pipe) : Bool :=
  p.front.contains 10 || p.back.any fun piece => piece.contains 10

/-- Whether no writer has to wait. -/
def hasRoom (p : Pipe) : Bool :=
  p.size < capacity

end Pipe

/-- The bytes up to the end of a line, its line feed included. -/
def lineOf (bytes : List UInt8) : List UInt8 :=
  let line := bytes.takeWhile (· != 10)
  bytes.take (line.length + 1)

/-- What a stream is connected to. -/
inductive Resource where
  /-- Takes everything and gives nothing. -/
  | nothing
  /-- Gives zero bytes without end. -/
  | zeros
  /-- Takes nothing. -/
  | full
  /-- Cannot be read. -/
  | directory
  /-- Collects output. -/
  | sink (n : Nat)
  /-- A file with a position in it. The bytes are those that it had when it was opened: they are
  given if the file is gone. -/
  | file (place : List String) (position : Nat) (access : Access) (bytes : List UInt8)
  | pipeEnd (pipe : Nat) (writes : Bool)
deriving DecidableEq

/-- A stream of a process. -/
structure Stream where
  number : Nat
  resource : Nat
  /-- Whether a new program gets the stream. -/
  inherited : Bool
deriving DecidableEq

/-- A process. -/
structure Process where
  id : Nat
  parent : Nat
  task : Task
  clock : Nat
  streams : List Stream
  cwd : List String
  mask : Nat
  dispositions : List (Nat × Disposition)
  caught : List Nat
  ending : Option Termination
  stopped : Bool

namespace Process

/-- The stream with a number. -/
def stream? (p : Process) (number : Nat) : Option Stream :=
  p.streams.find? fun s => s.number == number

/-- The process with a stream connected to a resource. -/
def connect (s : Stream) (p : Process) : Process :=
  { p with streams := s :: p.streams.filter fun other => other.number != s.number }

/-- The process without a stream. -/
def disconnect (number : Nat) (p : Process) : Process :=
  { p with streams := p.streams.filter fun s => s.number != number }

/-- The numbers from which streams are numbered that no program names. -/
def firstOwnStream : Nat :=
  10

/-- The least number from a first one on that no stream has. -/
def freeNumberFrom (p : Process) : Nat → Nat → Nat
  | 0, n => n
  | fuel + 1, n => if (p.stream? n).isSome then freeNumberFrom p fuel (n + 1) else n

/-- A number for a new stream. -/
def freeNumber (p : Process) : Nat :=
  p.freeNumberFrom (p.streams.length + 1) firstOwnStream

/-- What a signal does to the process. -/
def disposition (p : Process) (signal : Nat) : Disposition :=
  ((p.dispositions.find? fun entry => entry.1 == signal).map Prod.snd).getD .usual

/-- The process with something else that a signal does. -/
def dispose (signal : Nat) (d : Disposition) (p : Process) : Process :=
  { p with dispositions := (signal, d) :: p.dispositions.filter fun entry => entry.1 != signal }

/-- Whether the process is still at work. -/
def isAlive (p : Process) : Bool :=
  p.ending.isNone

/-- The process after its end. -/
def finish (how : Termination) (p : Process) : Process :=
  { p with ending := some how, streams := [], task := .finish 0 }

/-- Signals that do nothing unless they are caught. -/
def isHarmless (signal : Nat) : Bool :=
  [17, 18, 23, 28].contains signal

/-- Signals that stop a process. -/
def isStopping (signal : Nat) : Bool :=
  [19, 20, 21, 22].contains signal

/-- Signals that nothing keeps from having their effect. -/
def isForced (signal : Nat) : Bool :=
  [9, 19].contains signal

/-- The process after a signal did what it usually does. -/
def suffer (signal : Nat) (p : Process) : Process :=
  if isHarmless signal then p
  else if isStopping signal then { p with stopped := true }
  else p.finish (.killed signal)

/-- The process after a signal was sent to it. -/
def receive (signal : Nat) (p : Process) : Process :=
  let p := if signal == 18 then { p with stopped := false } else p
  if isForced signal then p.suffer signal
  else
    match p.disposition signal with
    | .usual => p.suffer signal
    | .ignored => p
    | .caught =>
      if p.caught.contains signal then p else { p with caught := p.caught ++ [signal] }

/-- The process before a new program starts in it. -/
def renew (p : Process) : Process :=
  { p with
    streams := p.streams.filter Stream.inherited
    dispositions := p.dispositions.filter fun entry => entry.2 == .ignored
    caught := [] }

end Process

end LintRoster.Machine
