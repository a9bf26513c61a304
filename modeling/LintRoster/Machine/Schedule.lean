import LintRoster.Machine.Kernel

/-!
# Taking turns

The processes of a machine take turns. The turn is always with the process whose clock is furthest
behind, among those that do not have to wait. A run is over when the first process has ended and
nobody can add to the sinks any more.
-/

namespace LintRoster.Machine.Kernel

/-- The number of the first process. -/
def firstId : Nat :=
  4711

/-- How long it takes until a child begins its work, in nanoseconds. -/
def startCost : Nat :=
  300000

/-- What it costs to start a child, in nanoseconds. -/
def forkCost : Nat :=
  30000

/-- The machine after a process changed in its turn. The children of a process that ended belong to
nobody. -/
def settle (p : Process) (k : Kernel) : Kernel :=
  let k := k.replace p
  if p.isAlive then k
  else
    { k with
      processes := (k.processes.filter fun c => c.parent != p.id || c.isAlive).map fun c =>
        if c.parent == p.id then { c with parent := 1 } else c }

/-- Without a parent that could ask for its end, a process is forgotten when it ends. -/
def release (p : Process) (k : Kernel) : Kernel :=
  if p.parent == 1 && !p.isAlive then k.forget p.id else k

/-- The process at its turn, whose clock catches up with the machine. -/
def atTurn (k : Kernel) (p : Process) : Process :=
  { p with clock := max p.clock k.now }

/-- One turn of a process, unless it has to wait. What it does takes effect at once, and keeps it busy
for a while. -/
def turn? (k : Kernel) (waiting : Process) : Option Kernel :=
  let p := k.atTurn waiting
  let k := { k with now := p.clock }
  match p.task with
  | .finish status =>
    let p := p.finish (.exited (status % 256))
    some ((k.settle p).release p)
  | .fork child next =>
    let id := k.nextId
    let born : Process :=
      { p with id, parent := p.id, task := child, clock := p.clock + startCost, caught := [] }
    let p := { p with task := next id, clock := p.clock + forkCost }
    some { k.settle p with processes := (k.settle p).processes ++ [born], nextId := id + 1 }
  | .call request next =>
    match answer? p k request with
    | none => none
    | some (a, p, k) =>
      let p := { p with clock := p.clock + cost request a }
      let p := if p.isAlive then { p with task := next a } else p
      some ((k.settle p).release p)

/-- The processes that can have a turn, those that are furthest behind first. -/
def ready (k : Kernel) : List Process :=
  match k.processes.filter fun p => p.isAlive && !p.stopped with
  | [p] => [p]
  | ps => ps.mergeSort fun a b => max a.clock k.now ≤ max b.clock k.now

/-- Whether something is a sink. -/
def isSink : Resource → Bool
  | .sink _ => true
  | _ => false

/-- Whether the run is over. -/
def isOver (k : Kernel) : Bool :=
  (k.process? firstId).all (fun p => !p.isAlive) && !k.isHeld isSink

/-- Lets processes take turns until the run is over, or all have to wait. Nothing happens from the
deadline on. -/
def run (deadline : Nat) : Nat → Kernel → Kernel
  | 0, k => k
  | turns + 1, k =>
    if k.isOver then k
    else
      match k.ready.findSome? k.turn? with
      | none => k
      | some after => if after.now < deadline then run deadline turns after else k

end LintRoster.Machine.Kernel
