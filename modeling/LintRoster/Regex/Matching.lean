import LintRoster.Regex

/-!
# Matching texts

A program is carried out by threads that read a text together. Of two threads at the same instruction
the later one is dropped. The match is the one that begins first, and of those the longest.
-/

namespace LintRoster.Regex

/-- A thread: its instruction, how much it has reread, and the places that it remembers. -/
structure Thread where
  instruction : Nat
  reread : Nat
  marks : Array (Option Nat)

/-- A program with what is known about it. -/
structure Matcher where
  code : Array Instruction
  groups : Nat
  /-- Whether what threads remember makes a difference. -/
  rereads : Bool
  folds : Bool

/-- The matcher for an expression. -/
def matcher (folds : Bool) (r : Regex) : Matcher :=
  ⟨r.program folds, r.groups, r.rereads, folds⟩

/-- A place in a text: the character before it, the text after it, and how far it is from the start. -/
structure Spot where
  before : Option Char
  after : List Char
  position : Nat

/-- Whether something holds at a place. -/
def Place.holds (s : Spot) : Place → Bool
  | start | textStart => s.position == 0
  | stop | textStop => s.after.isEmpty
  | lineStart => s.position == 0 || s.before == some '\n'
  | lineStop => s.after.isEmpty || s.after.head? == some '\n'
  | wordStart => !inWord s.before && inWord s.after.head?
  | wordStop => inWord s.before && !inWord s.after.head?
  | wordEdge => inWord s.before != inWord s.after.head?
  | noWordEdge => inWord s.before == inWord s.after.head?
  | afterGap => !inWord s.before
  | beforeGap => !inWord s.after.head?
where
  /-- Whether there is a character that belongs to a word. -/
  inWord (c? : Option Char) : Bool :=
    c?.any isWordChar

/-- The threads at a place, last first, the places of the first one that accepted, and which
instructions threads are at. -/
structure Threads where
  all : List Thread
  accepted : Option (Array (Option Nat))
  seen : Array Bool

namespace Matcher

/-- No threads. -/
def noThreads (m : Matcher) : Threads :=
  ⟨[], none, Array.replicate m.code.size false⟩

/-- Whether a thread is there already. -/
def has (m : Matcher) (t : Thread) (ts : Threads) : Bool :=
  if m.rereads then
    ts.all.any fun other =>
      other.instruction == t.instruction && other.reread == t.reread && other.marks == t.marks
  else ts.seen.getD t.instruction true

/-- Adds a thread that waits for a character. -/
def wait (t : Thread) (ts : Threads) : Threads :=
  { ts with all := t :: ts.all, seen := ts.seen.setIfInBounds t.instruction true }

/-- The text between two places of a text. -/
def slice (text : List Char) (first last : Nat) : List Char :=
  (text.drop first).take (last - first)

/-- The text of a group that a thread remembers. -/
def remembered? (text : List Char) (number : Nat) (t : Thread) : Option (List Char) :=
  match t.marks.getD (2 * number) none, t.marks.getD (2 * number + 1) none with
  | some first, some last => some (slice text first last)
  | _, _ => none

/-- Adds a thread and those that it becomes without reading. -/
def add (m : Matcher) (text : List Char) (s : Spot) : Nat → Thread → Threads → Threads
  | 0, _, ts => ts
  | fuel + 1, t, ts =>
    if m.has t ts then ts
    else
      let next (t : Thread) : Threads → Threads := add m text s fuel t
      let seen := { ts with seen := ts.seen.setIfInBounds t.instruction true }
      match m.code[t.instruction]? with
      | none => ts
      | some (.read _) => wait t ts
      | some (.reread n) =>
        match remembered? text n t with
        | none => seen
        | some piece =>
          if piece.length ≤ t.reread then next { t with instruction := t.instruction + 1, reread := 0 } seen
          else wait t ts
      | some (.check p) =>
        if p.holds s then next { t with instruction := t.instruction + 1 } seen else seen
      | some (.mark slot) =>
        let marks := t.marks.setIfInBounds slot (some s.position)
        next { t with instruction := t.instruction + 1, marks } seen
      | some (.jump target) => next { t with instruction := target } seen
      | some (.fork first second) =>
        next { t with instruction := second } (next { t with instruction := first } seen)
      | some .accept => { seen with accepted := ts.accepted.or (some t.marks) }

/-- How many threads may become one another without reading. -/
def fuel (m : Matcher) : Nat :=
  m.code.size + 2

/-- The threads after those at a place read a character. -/
def step (m : Matcher) (text : List Char) (c : Char) (s : Spot) (ts : List Thread) : Threads :=
  ts.foldl (fun (after : Threads) (t : Thread) =>
    match m.code[t.instruction]? with
    | some (.read accepts) =>
      if accepts c then m.add text s m.fuel { t with instruction := t.instruction + 1 } after else after
    | some (.reread n) =>
      match (remembered? text n t).bind fun piece => piece[t.reread]? with
      | some d =>
        if c == d || (m.folds && c == otherCase d) then
          m.add text s m.fuel { t with reread := t.reread + 1 } after
        else after
      | none => after
    | _ => after) m.noThreads

/-- The longest match of threads, if there is any. -/
def longest (m : Matcher) (text : List Char) :
    List Char → Spot → Threads → Option (Array (Option Nat)) → Option (Array (Option Nat))
  | [], _, ts, best => ts.accepted.or best
  | c :: rest, s, ts, best =>
    let best := ts.accepted.or best
    if ts.all.isEmpty then best
    else
      let s : Spot := ⟨some c, rest, s.position + 1⟩
      longest m text rest s (m.step text c s ts.all.reverse) best

/-- The match that begins at a place. -/
def matchAt? (m : Matcher) (text : List Char) (s : Spot) : Option (Array (Option Nat)) :=
  let marks := Array.replicate (2 * (m.groups + 1)) none
  m.longest text s.after s (m.add text s m.fuel ⟨0, 0, marks⟩ m.noThreads) none

/-- The first match from a place on. -/
def searchFrom (m : Matcher) (text : List Char) :
    List Char → Option Char → Nat → Option (Array (Option Nat))
  | [], before, position => m.matchAt? text ⟨before, [], position⟩
  | c :: rest, before, position =>
    match m.matchAt? text ⟨before, c :: rest, position⟩ with
    | some found => some found
    | none => searchFrom m text rest (some c) (position + 1)

/-- The first match in a text that begins no earlier than at a place. The marks are the beginnings and
ends of the match and of the groups in it. -/
def search (m : Matcher) (text : List Char) (start : Nat) : Option (Array (Option Nat)) :=
  let before := if start == 0 then none else text[start - 1]?
  m.searchFrom text (text.drop start) before start

/-- Where a match begins and ends. -/
def ends (found : Array (Option Nat)) : Nat × Nat :=
  ((found.getD 0 none).getD 0, (found.getD 1 none).getD 0)

end Matcher

end LintRoster.Regex
