import LintRoster.Machine.Device
import LintRoster.Machine.Process

/-!
# The kernel of a machine

The kernel holds files, resources and processes, and answers requests. A request that cannot be
answered yet has no answer: whoever makes it waits until others have done their part.
-/

namespace LintRoster.Machine

/-- The state of a machine. Sinks hold what was written to them in pieces, the last one first. -/
structure Kernel where
  root : Directory
  resources : Array Resource
  pipes : Array Pipe
  sinks : Array (List (List UInt8))
  processes : List Process
  nextId : Nat
  now : Nat

namespace Kernel

/-- The files, seen from the directory of a process. -/
def view (k : Kernel) (p : Process) : FileSystem :=
  ⟨k.root, p.cwd⟩

/-- The process with a number. -/
def process? (k : Kernel) (id : Nat) : Option Process :=
  k.processes.find? fun p => p.id == id

/-- The machine with a process changed. -/
def replace (p : Process) (k : Kernel) : Kernel :=
  { k with processes := k.processes.map fun other => if other.id == p.id then p else other }

/-- The resource of a stream. -/
def resource? (k : Kernel) (p : Process) (stream : Nat) : Option (Nat × Resource) :=
  (p.stream? stream).bind fun s => (k.resources[s.resource]?).map fun r => (s.resource, r)

/-- The machine with one more resource, whose number is given. -/
def addResource (r : Resource) (k : Kernel) : Nat × Kernel :=
  (k.resources.size, { k with resources := k.resources.push r })

/-- Opens a resource as a stream of a process. -/
def openStream (r : Resource) (p : Process) (k : Kernel) : Nat × Process × Kernel :=
  let (resource, k) := k.addResource r
  let number := p.freeNumber
  (number, p.connect ⟨number, resource, false⟩, k)

/-- Whether a process that is at work has a stream that is connected to a resource of a kind. -/
def isHeld (k : Kernel) (kind : Resource → Bool) : Bool :=
  k.processes.any fun p =>
    p.isAlive && p.streams.any fun s => (k.resources[s.resource]?).any kind

/-- Whether something is an end of a pipe. -/
def isPipeEnd (pipe : Nat) (writes : Bool) : Resource → Bool
  | .pipeEnd n w => n == pipe && w == writes
  | _ => false

/-! ## Opening files -/

/-- The resource of a device. -/
def ofDevice : Device → Resource
  | .nothing => .nothing
  | .zeros => .zeros
  | .full => .full

/-- The place that a path leads to, or the free name that it leads to. -/
def placeOf? (fs : FileSystem) (path : Path) : Option (List String) :=
  match fs.resolve path with
  | .ok (.node place _) => some place
  | .ok (.free parent name) => some (parent ++ [name])
  | .error _ => none

/-- Opens a file that is no device. -/
def openFile (fs : FileSystem) (path : Path) (access : Access) :
    Except FileFault (Resource × FileSystem) :=
  let opened (fs : FileSystem) : Except FileFault (Resource × FileSystem) :=
    match fs.stat path with
    | .error fault => .error fault
    | .ok (place, .file bytes _) => .ok (.file place 0 access bytes, fs)
    | .ok (_, _) => .ok (.directory, fs)
  let created (keeps : Bool) : Except FileFault (Resource × FileSystem) :=
    let old := if keeps then (fs.readBytes path).toOption.getD [] else []
    match fs.writeBytes path old false with
    | .error fault => .error fault
    | .ok fs => opened fs
  match access with
  | .read => opened fs
  | .write => created false
  | .append | .update => created true
  | .writeNew =>
    match fs.stat path with
    | .ok (_, .file _ _) => .error .exists
    | _ => created false

/-- Opens what a path leads to. A stream is opened anew by its place among the devices. -/
def open? (p : Process) (path : Path) (access : Access) (k : Kernel) :
    Except FileFault (Nat × Process × Kernel) :=
  let fs := k.view p
  let place := (placeOf? fs path).getD []
  let regular (fs : FileSystem) (path : Path) : Except FileFault (Nat × Process × Kernel) :=
    (openFile fs path access).map fun (r, fs) => { k with root := fs.root }.openStream r p
  match Device.at? place, Device.streamAt? place with
  | some d, _ => .ok (k.openStream (ofDevice d) p)
  | none, none => regular fs path
  | none, some stream =>
    match k.resource? p stream with
    | none => .error .notFound
    | some (_, .file place _ _ _) => regular fs (FileSystem.absolute place)
    | some (_, r) => .ok (k.openStream r p)

/-! ## Reading and writing -/

/-- The bytes of a file as they are now, or as they were if it is gone. -/
def currentBytes (k : Kernel) (place : List String) (bytes : List UInt8) : List UInt8 :=
  match k.root.find? place with
  | some (.file now _) => now
  | _ => bytes

/-- Reads from a stream. `cut` takes what is asked for from what there is. -/
def read? (p : Process) (stream : Nat) (cut : List UInt8 → List UInt8) (k : Kernel) :
    Option (Except FileFault (List UInt8) × Kernel) :=
  match k.resource? p stream with
  | none => some (.error .badDescriptor, k)
  | some (n, r) =>
    match r with
    | .nothing => some (.ok [], k)
    | .zeros | .full => some (.ok (cut (List.replicate Work.portion 0)), k)
    | .directory => some (.error .isDirectory, k)
    | .sink _ => some (.error .badDescriptor, k)
    | .file place position access bytes =>
      if access == .read || access == .update then
        let taken := cut ((k.currentBytes place bytes).drop position)
        let r := Resource.file place (position + taken.length) access bytes
        some (.ok taken, { k with resources := k.resources.setIfInBounds n r })
      else some (.error .badDescriptor, k)
    | .pipeEnd _ true => some (.error .badDescriptor, k)
    | .pipeEnd n false =>
      match k.pipes[n]? with
      | none => some (.ok [], k)
      | some pipe =>
        if pipe.size == 0 then
          if k.isHeld (isPipeEnd n true) then none else some (.ok [], k)
        else
          let (taken, pipe) := pipe.gather.take cut
          some (.ok taken, { k with pipes := k.pipes.setIfInBounds n pipe })

/-- Whether a whole line can be read, or nothing is to be gained by waiting for its end. -/
def hasLine (p : Process) (stream : Nat) (k : Kernel) : Bool :=
  match k.resource? p stream with
  | some (_, .pipeEnd n false) =>
    match k.pipes[n]? with
    | some pipe =>
      pipe.hasLine || !pipe.hasRoom || !k.isHeld (isPipeEnd n true)
    | none => true
  | _ => true

/-- Bytes with others written over them from a position on. -/
def overwrite (old : List UInt8) (position : Nat) (bytes : List UInt8) : List UInt8 :=
  old.take position ++ List.replicate (position - old.length) 0 ++ bytes ++
    old.drop (position + bytes.length)

/-- Writes to a file. -/
def writeFile (n : Nat) (place : List String) (position : Nat) (access : Access)
    (kept bytes : List UInt8) (k : Kernel) : Kernel :=
  let (root, position) :=
    match k.root.find? place with
    | some (.file old executable) =>
      let position := if access == .append then old.length else position
      let new := if position == old.length then old ++ bytes else overwrite old position bytes
      (k.root.alterAt place fun _ => some (.file new executable), position + bytes.length)
    | _ => (k.root, position + bytes.length)
  { k with root, resources := k.resources.setIfInBounds n (.file place position access kept) }

/-- Writes to a stream. Writing to a pipe that nobody can read from is a reason to be ended. -/
def write? (p : Process) (stream : Nat) (bytes : List UInt8) (k : Kernel) :
    Option (Except FileFault Unit × Process × Kernel) :=
  match k.resource? p stream with
  | none => some (.error .badDescriptor, p, k)
  | some (n, r) =>
    match r with
    | .nothing | .zeros => some (.ok (), p, k)
    | .full => some (.error (.described "No space left on device"), p, k)
    | .directory => some (.error .badDescriptor, p, k)
    | .sink n => some (.ok (), p, { k with sinks := k.sinks.modify n (bytes :: ·) })
    | .file place position access kept =>
      if access == .read then some (.error .badDescriptor, p, k)
      else some (.ok (), p, k.writeFile n place position access kept bytes)
    | .pipeEnd _ false => some (.error .badDescriptor, p, k)
    | .pipeEnd n true =>
      if !k.isHeld (isPipeEnd n false) then some (.error .brokenPipe, p.receive 13, k)
      else
        match k.pipes[n]? with
        | none => some (.ok (), p, k)
        | some pipe =>
          if pipe.hasRoom then
            some (.ok (), p, { k with pipes := k.pipes.setIfInBounds n (pipe.push bytes) })
          else none

/-! ## Children and signals -/

/-- The children of a process. -/
def children (k : Kernel) (p : Process) : List Process :=
  k.processes.filter fun c => c.parent == p.id

/-- The process that ended first. -/
def firstEnded? (ps : List Process) : Option (Process × Termination) :=
  let ended := ps.filterMap fun p => p.ending.map fun how => (p, how)
  ended.foldl (fun best p =>
    match best with
    | some b => if p.1.clock < b.1.clock then some p else some b
    | none => some p) none

/-- The machine without a process whose end is known. -/
def forget (id : Nat) (k : Kernel) : Kernel :=
  { k with processes := k.processes.filter fun p => p.id != id }

/-- Waits for a child. -/
def wait? (p : Process) (child : Option Nat) (interruptible : Bool) (k : Kernel) :
    Option (Waited × Process × Kernel) :=
  let waitedFor := (k.children p).filter fun c => child.all (· == c.id)
  match waitedFor, firstEnded? waitedFor with
  | [], _ => some (.noChild, p, k)
  | _, some (c, how) => some (.ended c.id how, { p with clock := max p.clock c.clock }, k.forget c.id)
  | _, none => if interruptible && !p.caught.isEmpty then some (.interrupted, p, k) else none

/-- A process after a signal was sent to it at a time. -/
def signalled (now signal : Nat) (p : Process) : Process :=
  if !p.isAlive then p
  else
    let after := p.receive signal
    if after.isAlive then after else { after with clock := now }

/-- Sends a signal. -/
def kill (p : Process) (target signal : Nat) (k : Kernel) : Bool × Process × Kernel :=
  if (k.process? target).isNone then (false, p, k)
  else if signal == 0 then (true, p, k)
  else if target == p.id then (true, p.receive signal, k)
  else
    let processes := k.processes.map fun other =>
      if other.id == target then signalled p.clock signal other else other
    (true, p, { k with processes })

/-- The processes of a list that are in a family or descend from it, looked for over a number of
generations. -/
def familyFrom (ps : List Process) : Nat → List Nat → List Nat
  | 0, ids => ids
  | fuel + 1, ids =>
    let more := (ps.filter fun p => ids.contains p.parent && !ids.contains p.id).map Process.id
    if more.isEmpty then ids else familyFrom ps fuel (ids ++ more)

/-- Sends a signal to a process and to all that descend from it. -/
def killFamily (p : Process) (target signal : Nat) (k : Kernel) : Kernel :=
  let ids := familyFrom k.processes k.processes.length [target]
  { k with processes := k.processes.map fun other =>
      if ids.contains other.id && other.id != p.id then signalled p.clock signal other else other }

/-- Sends a signal to all processes. -/
def killAll (p : Process) (signal : Nat) (k : Kernel) : Process × Kernel :=
  if signal == 0 then (p, k)
  else (p.receive signal, { k with processes := k.processes.map (signalled p.clock signal) })

/-! ## Answers -/

/-- What it takes to move bytes, in nanoseconds. -/
def moveCost (bytes : List UInt8) : Nat :=
  500 + 400 * bytes.length

/-- What it takes to answer a request, in nanoseconds. -/
def cost {α : Type} : Request α → α → Nat
  | .pass nanos, _ => nanos
  | .renew, _ => 500000
  | .read _ _, .ok bytes => moveCost bytes
  | .write _ bytes, _ => moveCost bytes
  | _, _ => 500

/-- The answer to a request, with the process and the machine after it. There is none as long as the
process has to wait. -/
def answer? {α : Type} (p : Process) (k : Kernel) : Request α → Option (α × Process × Kernel)
  | .pass _ => some ((), p, k)
  | .files act =>
    let (a, fs) := act (k.view p)
    some (a, { p with cwd := fs.cwd }, { k with root := fs.root })
  | .open path access =>
    match k.open? p path access with
    | .ok (n, p, k) => some (.ok n, p, k)
    | .error fault => some (.error fault, p, k)
  | .document bytes =>
    let pipe := k.pipes.size
    let k := { k with pipes := k.pipes.push (Pipe.ofBytes bytes) }
    some (k.openStream (.pipeEnd pipe false) p)
  | .close stream => some ((), p.disconnect stream, k)
  | .copy stream target =>
    match p.stream? stream with
    | none => some (.error .badDescriptor, p, k)
    | some s => some (.ok (), p.connect ⟨target, s.resource, true⟩, k)
  | .save stream =>
    match p.stream? stream with
    | none => some (.error .badDescriptor, p, k)
    | some s =>
      let number := p.freeNumber
      some (.ok number, p.connect ⟨number, s.resource, false⟩, k)
  | .pipe =>
    let pipe := k.pipes.size
    let k := { k with pipes := k.pipes.push (Pipe.ofBytes []) }
    let (input, p, k) := k.openStream (.pipeEnd pipe false) p
    let (output, p, k) := k.openStream (.pipeEnd pipe true) p
    some ((input, output), p, k)
  | .read stream count => (k.read? p stream (·.take count)).map fun (a, k) => (a, p, k)
  | .readLine stream =>
    if k.hasLine p stream then (k.read? p stream lineOf).map fun (a, k) => (a, p, k) else none
  | .write stream bytes => k.write? p stream bytes
  | .place stream =>
    match k.resource? p stream with
    | some (_, .file place _ _ _) => some (some place, p, k)
    | _ => some (none, p, k)
  | .wait child interruptible => k.wait? p child interruptible
  | .ended =>
    match firstEnded? (k.children p) with
    | none => some (none, p, k)
    | some (c, how) => some (some (c.id, how), p, k.forget c.id)
  | .kill target signal => some (k.kill p target signal)
  | .killFamily target signal => some ((), p, k.killFamily p target signal)
  | .killAll signal => some ((), k.killAll p signal)
  | .dispose signal d => some ((), p.dispose signal d, k)
  | .disposition signal => some (p.disposition signal, p, k)
  | .caught => some (p.caught, { p with caught := [] }, k)
  | .identity => some ((p.id, p.parent), p, k)
  | .mask new => some (p.mask, { p with mask := new.getD p.mask }, k)
  | .renew => some ((), p.renew, k)

end Kernel

end LintRoster.Machine
