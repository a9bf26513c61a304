import LintRoster.Machine.Tool.Awk.Pattern
import LintRoster.Machine.Tool.Awk.Table
import LintRoster.Machine.Tool.Spawn

/-!
# Runners of scripts for records

A runner knows the record that a script is carried out for, its fields, all variables, and the streams
that are open. This module holds how it reads records, divides them into fields, and writes.
-/

namespace LintRoster.Machine.Tool.Awk

/-! ## Runners -/

/-- A stream that records are read from, with what was read and not used yet. -/
structure Input where
  stream : Nat
  buffer : List Char
  isEnded : Bool
  /-- The child that writes to the stream. -/
  child : Option Nat

/-- A stream that is written to, with what is to be written, last first, and how much it is. -/
structure Output where
  name : String
  stream : Nat
  written : List (List UInt8)
  size : Nat
  /-- The child that reads from the stream. -/
  child : Option Nat

/-- What a function knows: the values of its parameters, and which tables those are that are some. -/
structure Locals where
  values : Array Value
  tables : Array Nat

/-- What a script is carried out with. -/
structure Runner where
  call : Call
  script : Script
  shared : Std.HashMap String Value
  /-- The places of the tables that the whole script knows. -/
  names : Std.HashMap String Nat
  tables : Array Table
  locals : Locals
  /-- How many calls of functions are around a statement. -/
  depth : Nat
  record : String
  fields : Array Value
  /-- Whether the fields are those of the record. -/
  isSplit : Bool
  /-- Whether the record is the one of the fields. -/
  isJoined : Bool
  main : Option Input
  /-- The number of the next operand, and whether an input was among those before it. -/
  nextOperand : Nat
  hadInput : Bool
  inputs : List (String × Input)
  outputs : List Output
  written : List (List UInt8)
  size : Nat
  matchers : Std.HashMap String Regex.Matcher
  /-- Which rules are within their ranges. -/
  active : Array Bool
  seed : Float

/-- What ends the work on a record. -/
inductive Interrupt where
  | next
  | nextFile
  | exit (status : Option Nat)
  /-- Ends everything because of a fault. -/
  | abort (status : Nat)

/-- A step in carrying out a script. -/
abbrev Run :=
  ExceptT Interrupt (StateT Runner Work)

/-- Does some work. -/
def work {α : Type} (w : Work α) : Run α :=
  ExceptT.lift (StateT.lift w)

/-! ## Variables -/

/-- The value of a variable of the whole script. -/
def shared (name : String) : Run Value := do
  return ((← get).shared[name]?).getD .unset

/-- Gives a variable of the whole script a value. -/
def setShared (name : String) (v : Value) : Run Unit :=
  modify fun r => { r with shared := r.shared.insert name v }

/-- The format for numbers that are used as texts. -/
def conversionFormat : Run String := do
  match ← shared "CONVFMT" with
  | .text s | .given s => return s
  | v => return v.toText "%.6g"

/-- A value as a text. -/
def textFor (v : Value) : Run String := do
  match v with
  | .unset => return ""
  | .text s | .given s => return s
  | .number x =>
    match integerText? x with
    | some s => return s
    | none => return textOf (← conversionFormat) x

/-- The text of a variable of the whole script. -/
def sharedText (name : String) : Run String := do
  textFor (← shared name)

/-- Adds one to a variable of the whole script. -/
def countUp (name : String) : Run Unit := do
  setShared name (.number ((← shared name).toNumber + 1))

/-! ## Faults -/

/-- Ends everything with a complaint. -/
def fail {α : Type} (message : String) : Run α := do
  work (complain (← get).call message)
  throw (.abort 2)

/-- Ends everything with a complaint about what happened at a record. -/
def failAt {α : Type} (message : String) : Run α := do
  let name ← sharedText "FILENAME"
  let place := "\n\tFILENAME=\"" ++ name ++ "\" FNR=" ++ (← sharedText "FNR") ++ " NR=" ++ (← sharedText "NR")
  fail ("run time error: " ++ message ++ place)

/-! ## Writing -/

/-- How much is kept before it is written. -/
def bufferSize : Nat :=
  4096

/-- Writes what was kept for the output. -/
def flush : Run Unit := do
  let r ← get
  set { r with written := [], size := 0 }
  if r.written.isEmpty then return
  match ← work (Work.ask (.write 1 r.written.reverse.flatten)) with
  | .ok () => return
  | .error fault => fail ("write failure (" ++ fault.summary ++ ")")

/-- Writes what was kept for another stream. -/
def flushOutput (o : Output) : Run Output := do
  if !o.written.isEmpty then
    discard (work (Work.ask (.write o.stream o.written.reverse.flatten)))
  return { o with written := [], size := 0 }

/-- Writes what was kept for all streams. -/
def flushAll : Run Unit := do
  flush
  let outputs ← (← get).outputs.mapM flushOutput
  modify fun r => { r with outputs }

/-- Keeps what is to be written to the output. -/
def put (s : String) : Run Unit := do
  let bytes := Bytes.toBytes s
  modify fun r => { r with written := bytes :: r.written, size := r.size + bytes.length }
  if bufferSize ≤ (← get).size then flush

/-- The status that tells how a child ended. -/
def statusOf : Termination → Nat
  | .exited status => status
  | .killed signal => 256 + signal

/-- The child that carries out a command with one end of a pipe as its input or output. The other end
is the stream that is given. -/
def startCommand (exec : Exec) (command : String) (writes : Bool) : Run (Nat × Nat) := do
  flushAll
  let r ← get
  let (reader, writer) ← work (Work.ask .pipe)
  let (kept, given) := if writes then (writer, reader) else (reader, writer)
  let child : Work Nat := do
    discard (Work.ask (.copy given (if writes then 0 else 1)))
    Work.ask (.close reader)
    Work.ask (.close writer)
    for o in r.outputs do Work.ask (.close o.stream)
    discard (exec Exec.shellPath [Exec.shellPath, "-c", command] r.call.environment)
    return 127
  let id ← work (Work.fork child.toTask)
  work (Work.ask (.close given))
  return (kept, id)

/-- The stream that output is directed to, which is opened unless it is open. -/
def outputFor (exec : Exec) (d : Direction) (name : String) : Run Output := do
  match (← get).outputs.find? fun o => o.name == name with
  | some o => return o
  | none =>
    let o : Output ←
      if d == .pipe then
        let (stream, child) ← startCommand exec name true
        pure ⟨name, stream, [], 0, some child⟩
      else
        match ← work (Work.ask (.open (pathOf name) (if d == .append then .append else .write))) with
        | .ok stream => pure ⟨name, stream, [], 0, none⟩
        | .error fault => fail ("cannot open \"" ++ name ++ "\" for output (" ++ fault.summary ++ ")")
    return o

/-- Writes a text to where it is directed. -/
def send (exec : Exec) (target : Option (Direction × String)) (s : String) : Run Unit := do
  match target with
  | none | some (.write, "/dev/stdout") | some (.append, "/dev/stdout") => put s
  | some (.write, "/dev/stderr") | some (.append, "/dev/stderr") => discard (work (writeTo 2 s))
  | some (d, name) =>
    let o ← outputFor exec d name
    let bytes := Bytes.toBytes s
    let o := { o with written := bytes :: o.written, size := o.size + bytes.length }
    let o ← if bufferSize ≤ o.size then flushOutput o else pure o
    modify fun r => { r with outputs := o :: r.outputs.filter fun other => other.name != name }

/-- Closes a stream that was written to, and waits for its child. Gives a status. -/
def closeOutput (o : Output) : Run Nat := do
  discard (flushOutput o)
  work (Work.ask (.close o.stream))
  match o.child with
  | none => return 0
  | some child => return statusOf (← work (awaitChild child))

/-- Closes a stream that was read, and waits for its child. Gives a status. -/
def closeInputOf (i : Input) : Run Nat := do
  if i.stream != 0 then work (Work.ask (.close i.stream))
  match i.child with
  | none => return 0
  | some child => return statusOf (← work (awaitChild child))

/-- Closes all that has a name. Gives a status, which is negative if nothing has it. -/
def closeNamed (name : String) : Run Float := do
  let r ← get
  set { r with
    outputs := r.outputs.filter fun o => o.name != name
    inputs := r.inputs.filter fun i => i.1 != name }
  let mut status : Float := -1
  for i in r.inputs do
    if i.1 == name then status := Float.ofNat (← closeInputOf i.2)
  for o in r.outputs do
    if o.name == name then
      if o.child.isSome then flush
      status := Float.ofNat (← closeOutput o)
  return status

/-- Closes everything that was written to. -/
def closeAll : Run Unit := do
  let outputs := (← get).outputs
  modify fun r => { r with outputs := [] }
  for o in outputs do discard (closeOutput o)
  flush

/-! ## Fields -/

/-- The matcher for the pattern that a text is. -/
def matcherFor (s : String) : Run Regex.Matcher := do
  match (← get).matchers[s]? with
  | some m => return m
  | none =>
    match Pattern.matcher s.toList with
    | .ok m =>
      modify fun r => { r with matchers := r.matchers.insert s m }
      return m
    | .error fault =>
      failAt ("regular expression compile failed (" ++ fault.message ++ ")\n" ++ s)

/-- What divides a text. -/
inductive Separator where
  | blanks
  | letters
  | char (c : Char)
  | pattern (m : Regex.Matcher)

/-- The separator that a text is. -/
def separatorFor (s : String) : Run Separator := do
  match s.toList with
  | [' '] => return .blanks
  | [] => return .letters
  | [c] => return .char c
  | _ => return .pattern (← matcherFor s)

/-- The pieces of a text between the matches of a pattern, from a place on. Those in front come last
first. -/
def piecesFrom (m : Regex.Matcher) (text : List Char) : Nat → Nat → List (List Char) → List (List Char)
  | 0, _, done => done.reverse
  | fuel + 1, start, done =>
    match nextMatch? fuel start with
    | none => (text.drop start :: done).reverse
    | some (first, last) => piecesFrom m text fuel last (Regex.Matcher.slice text start first :: done)
where
  /-- The next match that is not empty. -/
  nextMatch? : Nat → Nat → Option (Nat × Nat)
    | 0, _ => none
    | fuel + 1, place =>
      match m.search text place with
      | none => none
      | some found =>
        let (first, last) := Regex.Matcher.ends found
        if first < last then some (first, last)
        else if text.length ≤ first then none
        else nextMatch? fuel (first + 1)

/-- The words of a text, where the present one and those in front come last first. -/
def wordsFrom : List Char → List (List Char) → List Char → List (List Char)
  | word, done, [] => (if word.isEmpty then done else word.reverse :: done).reverse
  | word, done, c :: cs =>
    if c == ' ' || c == '\t' || c == '\n' then
      wordsFrom [] (if word.isEmpty then done else word.reverse :: done) cs
    else wordsFrom (c :: word) done cs

/-- The pieces of a text between characters, where the present one and those in front come last
first. -/
def charPiecesFrom (c : Char) : List Char → List (List Char) → List Char → List (List Char)
  | piece, done, [] => (piece.reverse :: done).reverse
  | piece, done, d :: cs =>
    if d == c then charPiecesFrom c [] (piece.reverse :: done) cs else charPiecesFrom c (d :: piece) done cs

/-- The pieces that a separator divides a text into. -/
def Separator.pieces (s : Separator) (text : String) : List String :=
  let cs := text.toList
  let pieces :=
    if cs.isEmpty then []
    else
      match s with
      | blanks => wordsFrom [] [] cs
      | letters => cs.map fun c => [c]
      | char c => charPiecesFrom c [] [] cs
      | pattern m => piecesFrom m cs (cs.length + 1) 0 []
  pieces.map fun piece => String.ofList piece

/-- Makes a text the record. -/
def setRecord (s : String) : Run Unit :=
  modify fun r => { r with record := s, isSplit := false, isJoined := true }

/-- Divides the record into fields, unless that has been done. -/
def split : Run Unit := do
  let r ← get
  if r.isSplit then return
  let separator ← separatorFor (← sharedText "FS")
  let fields := ((separator.pieces r.record).map Value.given).toArray
  modify fun r => { r with fields, isSplit := true }

/-- The record, which is put together from the fields if these were changed. -/
def recordText : Run String := do
  let r ← get
  if r.isJoined then return r.record
  let texts ← r.fields.toList.mapM textFor
  let record := (← sharedText "OFS").intercalate texts
  modify fun r => { r with record, isJoined := true }
  return record

/-- Gives the record so many fields. -/
def setCount (n : Nat) : Run Unit := do
  split
  modify fun r =>
    let kept := (r.fields.toList.take n).toArray
    { r with fields := kept ++ Array.replicate (n - kept.size) (.text ""), isJoined := false }

/-- The value of a field. -/
def fieldValue (n : Nat) : Run Value := do
  if n == 0 then return .given (← recordText)
  split
  return (← get).fields.getD (n - 1) .unset

/-- Gives a field a value. -/
def setField (n : Nat) (v : Value) : Run Unit := do
  if n == 0 then setRecord (← textFor v)
  else
    split
    if (← get).fields.size < n then setCount n
    modify fun r => { r with fields := r.fields.setIfInBounds (n - 1) v, isJoined := false }

/-! ## Records -/

/-- What ends records. -/
inductive Ending where
  | char (c : Char)
  | blankLines
  | pattern (m : Regex.Matcher)

/-- What ends records at present. -/
def ending : Run Ending := do
  let s ← sharedText "RS"
  match s.toList with
  | [] => return .blankLines
  | [c] => return .char c
  | _ => return .pattern (← matcherFor s)

/-- The record in front of two line ends, after the characters that come last first, and what follows
those and all other line ends. Without a sure end there is none. -/
def untilBlankLine (isEnded : Bool) : List Char → List Char → Option (List Char × List Char)
  | done, '\n' :: '\n' :: cs =>
    let rest := cs.dropWhile (· == '\n')
    if rest.isEmpty && !isEnded then none else some (done.reverse, rest)
  | done, c :: cs => untilBlankLine isEnded (c :: done) cs
  | _, [] => none

/-- The record at the front of a text, and what follows. Without a sure end there is none. -/
def Ending.cut? (e : Ending) (isEnded : Bool) (cs : List Char) : Option (List Char × List Char) :=
  match e with
  | char c =>
    let record := cs.takeWhile (· != c)
    match cs.drop record.length with
    | [] => none
    | _ :: rest => some (record, rest)
  | blankLines => untilBlankLine isEnded [] cs
  | pattern m =>
    match m.search cs 0 with
    | none => none
    | some found =>
      let (first, last) := Regex.Matcher.ends found
      if first == last || (last == cs.length && !isEnded) then none
      else some (cs.take first, cs.drop last)

/-- The last record of an input, if there is one. -/
def Ending.last? (e : Ending) (cs : List Char) : Option (List Char) :=
  let cs :=
    match e, cs.getLast? with
    | .blankLines, some '\n' => cs.dropLast
    | .pattern _, some '\n' => cs
    | _, _ => cs
  if cs.isEmpty then none else some cs

/-- Reads a record. -/
def readRecord (e : Ending) : Nat → Input → Work (Except FileFault (Option String × Input))
  | 0, i => return .ok (none, i)
  | fuel + 1, i => do
    let cs := if e matches .blankLines then i.buffer.dropWhile (· == '\n') else i.buffer
    match if cs.isEmpty then none else e.cut? i.isEnded cs with
    | some (record, rest) => return .ok (some (String.ofList record), { i with buffer := rest })
    | none =>
      if i.isEnded then
        return .ok ((e.last? cs).map fun record => String.ofList record, { i with buffer := [] })
      else
        match ← Work.ask (.read i.stream Work.portion) with
        | .error fault => return .error fault
        | .ok bytes =>
          let more := bytes.map Bytes.charOf
          readRecord e fuel { i with buffer := cs ++ more, isEnded := bytes.isEmpty }

/-- The operand with a number. -/
def operand (n : Nat) : Run String := do
  let r ← get
  let place := (r.names["ARGV"]?).getD 0
  match ((r.tables.getD place .empty).entries[toString n]?).map Entry.value with
  | some v => textFor v
  | none => return ""

/-- The variable and the value of an operand that gives one. -/
def assignment? (s : String) : Option (String × String) :=
  let cs := s.toList
  let name := cs.takeWhile fun c => c.isAlphanum || c == '_'
  match cs.drop name.length with
  | '=' :: value =>
    if name.isEmpty || name.head?.any Char.isDigit then none
    else some (String.ofList name, String.ofList value)
  | _ => none

/-- A text in which letters behind a backslash stand for characters. -/
def unescaped (s : String) : String :=
  String.ofList (unescapedFrom (s.length + 1) [] s.toList)
where
  /-- What a text stands for, after characters that come last first. -/
  unescapedFrom : Nat → List Char → List Char → List Char
    | 0, done, _ => done.reverse
    | _, done, [] => done.reverse
    | fuel + 1, done, '\\' :: cs =>
      match Pattern.escaped? cs with
      | some (c, rest) => unescapedFrom fuel (c :: done) rest
      | none => unescapedFrom fuel ('\\' :: done) cs
    | fuel + 1, done, c :: cs => unescapedFrom fuel (c :: done) cs

/-- Gives a variable the value that an operand has for it. -/
def assignOperand (name value : String) : Run Unit := do
  let v := Value.given (unescaped value)
  if name == "NF" then setCount (wholePart v.toNumber).toNat else setShared name v

/-- Opens the next input among the operands, if there is another one. Without any the input of the
tool is the only one. -/
def openNext : Nat → Run Bool
  | 0 => return false
  | fuel + 1 => do
    let r ← get
    let count := (← shared "ARGC").toNumber
    let begin (stream : Nat) (name : String) : Run Bool := do
      modify fun r => { r with main := some ⟨stream, [], false, none⟩, hadInput := true }
      setShared "FILENAME" (.text name)
      setShared "FNR" (.number 0)
      return true
    if count ≤ Float.ofNat r.nextOperand then
      if r.hadInput then return false else begin 0 "-"
    else
      set { r with nextOperand := r.nextOperand + 1 }
      let name ← operand r.nextOperand
      if name == "" then openNext fuel
      else
        match assignment? name with
        | some (name, value) =>
          assignOperand name value
          openNext fuel
        | none =>
          match ← work (openInput name) with
          | .ok stream => begin stream name
          | .error fault => fail ("cannot open \"" ++ name ++ "\" (" ++ fault.summary ++ ")")

/-- Goes on behind the present main input. -/
def leaveInput : Run Unit := do
  match (← get).main with
  | none => return
  | some i =>
    discard (closeInputOf i)
    modify fun r => { r with main := none }

/-- Reads the next record of the main inputs. -/
def nextRecord : Nat → Run (Option String)
  | 0 => return none
  | fuel + 1 => do
    match (← get).main with
    | none => if ← openNext Work.rounds then nextRecord fuel else return none
    | some i =>
      match ← work (readRecord (← ending) Work.rounds i) with
      | .error fault => fail ("read error (" ++ fault.summary ++ ")")
      | .ok (some record, i) =>
        modify fun r => { r with main := some i }
        countUp "NR"
        countUp "FNR"
        return some record
      | .ok (none, _) =>
        leaveInput
        nextRecord fuel

/-- Reads a record from a file or from a command, which is opened unless it is open. -/
def recordFrom (exec : Exec) (name : String) (isCommand : Bool) : Run (Except Unit (Option String)) := do
  let input? ←
    match (← get).inputs.lookup name with
    | some i => pure (some i)
    | none =>
      if isCommand then
        let (stream, child) ← startCommand exec name false
        pure (some ⟨stream, [], false, some child⟩)
      else
        match ← work (openInput name) with
        | .ok stream => pure (some ⟨stream, [], false, none⟩)
        | .error _ => pure none
  match input? with
  | none => return .error ()
  | some i =>
    match ← work (readRecord (← ending) Work.rounds i) with
    | .error fault => fail ("read error (" ++ fault.summary ++ ")")
    | .ok (record?, i) =>
      modify fun r => { r with inputs := (name, i) :: r.inputs.filter fun other => other.1 != name }
      return .ok record?

end LintRoster.Machine.Tool.Awk
