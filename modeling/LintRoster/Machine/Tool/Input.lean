import LintRoster.Machine.Tool

/-!
# Input of tools

Tools read files, or their own input, which a dash stands for. `Tool.slurp` reads one of them to its
end, `Tool.overLines` reads line by line and writes as it goes, so that it may stop early.
-/

namespace LintRoster.Machine.Tool

/-- The path of a byte text. -/
def pathOf (s : String) : Path :=
  ⟨Bytes.toText s⟩

/-- Opens a file, or takes the input, which a dash stands for. -/
def openInput (name : String) : Work (Except FileFault Nat) :=
  if name == "-" then return .ok 0 else Work.ask (.open (pathOf name) .read)

/-- Closes what was opened as an input. -/
def closeInput (stream : Nat) : Work Unit :=
  if stream == 0 then pure () else Work.ask (.close stream)

/-- Reads a file, or the input, to its end. -/
def slurp (name : String) : Work (Except FileFault (List UInt8)) := do
  match ← openInput name with
  | .error fault => return .error fault
  | .ok stream =>
    let result ← Work.readAll stream
    closeInput stream
    return result

/-- The names of inputs: those given, or the one of the tool itself. -/
def inputs (operands : List String) : List String :=
  if operands.isEmpty then ["-"] else operands

/-- The lines of bytes, each with its line feed as far as it has one, after pieces of a line that come
last first. -/
def linesFrom : List UInt8 → List UInt8 → List (List UInt8) → List (List UInt8)
  | [], [], done => done.reverse
  | line, [], done => (line.reverse :: done).reverse
  | line, b :: bs, done =>
    if b == 10 then linesFrom [] bs ((b :: line).reverse :: done)
    else linesFrom (b :: line) bs done

/-- The lines of bytes, each with its line feed as far as it has one. -/
def linesOf (bytes : List UInt8) : List (List UInt8) :=
  linesFrom [] bytes []

/-- A line without its line feed. -/
def chomp (line : List UInt8) : List UInt8 :=
  if line.getLast? == some 10 then line.dropLast else line

/-- A line with a line feed. -/
def withLineFeed (line : List UInt8) : List UInt8 :=
  chomp line ++ [10]

/-- The byte text of a line without its line feed. -/
def lineText (line : List UInt8) : String :=
  Bytes.ofBytes (chomp line)

/-- What a tool does with a line: what it writes, what it remembers, and whether it stops there. -/
structure Reaction (σ : Type) where
  written : List UInt8
  state : σ
  stops : Bool

/-- What a tool does with several lines. What is written is kept in pieces, the last one first. -/
def react {σ : Type} (step : σ → List UInt8 → Reaction σ) :
    σ → List (List UInt8) → List (List UInt8) → List (List UInt8) × σ × Bool
  | s, written, [] => (written, s, false)
  | s, written, line :: lines =>
    let r := step s line
    let written := r.written :: written
    if r.stops then (written, r.state, true) else react step r.state written lines

/-- What came of reading lines. -/
structure Outcome (σ : Type) where
  state : σ
  status : Nat
  stopped : Bool

/-- Reads lines from a stream, after the beginning of a line that was read already. -/
def streamLines {σ : Type} (call : Call) (stream : Nat) (step : σ → List UInt8 → Reaction σ) :
    Nat → σ → List UInt8 → Work (Outcome σ)
  | 0, s, _ => return ⟨s, 1, true⟩
  | fuel + 1, s, begun => do
    let bytes := (← Work.ask (.read stream Work.portion)).toOption.getD []
    let lines := linesOf (begun ++ bytes)
    let isCut := !bytes.isEmpty && bytes.getLast? != some 10
    let whole := if isCut then lines.dropLast else lines
    let rest := if isCut then lines.getLast?.getD [] else []
    let (written, s, stops) := react step s [] whole
    let status ← put call written.reverse.flatten 0
    if stops || status != 0 then return ⟨s, status, true⟩
    else if bytes.isEmpty then return ⟨s, 0, false⟩
    else streamLines call stream step fuel s rest

/-- Reads lines from inputs, one after the other. What cannot be read is complained about. -/
def overLines {σ : Type} (call : Call) (complaint : String → FileFault → String)
    (step : σ → List UInt8 → Reaction σ) : List String → σ → Nat → Work (Outcome σ)
  | [], s, status => return ⟨s, status, false⟩
  | name :: names, s, status => do
    match ← openInput name with
    | .error fault =>
      complain call (complaint name fault)
      overLines call complaint step names s (max status 1)
    | .ok stream =>
      match ← Work.ask (.read stream 0) with
      | .error fault =>
        closeInput stream
        complain call (complaint name fault)
        overLines call complaint step names s (max status 1)
      | .ok _ =>
        let r ← streamLines call stream step Work.rounds s []
        closeInput stream
        if r.stopped then return { r with status := max status r.status }
        else overLines call complaint step names r.state (max status r.status)

/-- The usual complaint about an input. -/
def inputComplaint (name : String) (fault : FileFault) : String :=
  Quoted.name name ++ ": " ++ fault.summary

end LintRoster.Machine.Tool
