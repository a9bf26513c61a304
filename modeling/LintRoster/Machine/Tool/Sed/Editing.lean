import LintRoster.Machine.Tool.Entry
import LintRoster.Machine.Tool.Sed.Script
import LintRoster.Machine.Tool.Spawn
import LintRoster.Text.Letters

/-!
# Editing lines

`Sed.edit` carries out a script for each line of some inputs: a line is read into the pattern space,
the commands that are for it are carried out, and what has become of it is printed.
-/

namespace LintRoster.Machine.Tool.Sed

/-! ## Editors -/

/-- How lines are edited. -/
structure Manner where
  exec : Exec
  call : Call
  script : Script
  isQuiet : Bool
  /-- Whether each input has lines of its own, numbered from one. -/
  isSeparate : Bool
  /-- Whether files are replaced by what becomes of them, and how the old ones are named. -/
  inPlace : Option String
  /-- What stands behind each line. -/
  delimiter : UInt8
  width : Nat

/-- Whether a command is within its range of lines. -/
inductive Range where
  | waiting
  /-- Within it, possibly up to a line that is known. -/
  | within (stop : Option Nat)
deriving DecidableEq

/-- What is written at the end of a cycle. -/
inductive Queued where
  | text (bytes : List UInt8)
  | file (name : String)

/-- What an editor knows. -/
structure Editor where
  /-- The inputs that are not open yet. -/
  waiting : List String
  stream : Option Nat
  /-- The name of the input that is open. -/
  source : String
  /-- Lines that were read and not used yet, and the beginning of another one. -/
  lines : List (List UInt8)
  begun : List UInt8
  /-- The name of the input of the present line, and its number. -/
  name : String
  number : Nat
  space : List Char
  /-- Whether the present line has an end. -/
  isEnded : Bool
  held : List Char
  /-- Whether what is held has an end. -/
  isHeldEnded : Bool
  /-- Whether anything was replaced since a line was read. -/
  hasReplaced : Bool
  /-- What is written at the end of the cycle, last first. -/
  queue : List Queued
  ranges : Array Range
  lastSought : Sought
  /-- What is to be written to the output, last first, and how much it is. -/
  written : List (List UInt8)
  size : Nat
  /-- The file that is edited in place, and what became of it, last first. -/
  editing : Option String
  edited : List (List UInt8)
  /-- The streams of files that are written. -/
  files : List (String × Nat)
  /-- Where the last line has no end. -/
  unended : List Target
  /-- The lines of files that are read line by line. -/
  readers : List (String × List (List UInt8))
  status : Nat

/-- A step in editing. -/
abbrev Edit :=
  StateT Editor Work

/-- How a cycle ends. -/
inductive Turn where
  | over (prints : Bool)
  /-- Another cycle begins with what is in the pattern space. -/
  | again
  | quit (prints : Bool) (status : Nat)

/-- What comes after a command. -/
inductive Outcome where
  | next
  | goTo (place : Nat)
  | turn (t : Turn)

/-! ## Writing -/

/-- How much is kept before it is written. -/
def bufferSize : Nat :=
  4096

/-- Writes what was kept. -/
def flush (m : Manner) : Edit Unit := do
  let e ← get
  set { e with written := [], size := 0 }
  if e.written.isEmpty then return
  match ← Work.ask (.write 1 e.written.reverse.flatten) with
  | .ok () => return
  | .error fault =>
    complain m.call ("couldn't flush stdout: " ++ fault.summary)
    Work.exit 4

/-- Ends with a complaint. -/
def fail {α : Type} (m : Manner) (message : String) (status : Nat) : Edit α := do
  complain m.call message
  flush m
  Work.exit status

/-- Keeps what is to be written to the output. -/
def keep (m : Manner) (bytes : List UInt8) : Edit Unit := do
  modify fun e => { e with written := bytes :: e.written, size := e.size + bytes.length }
  if bufferSize ≤ (← get).size then flush m

/-- Writes bytes to a target as they are. -/
def send (m : Manner) (t : Target) (bytes : List UInt8) : Edit Unit := do
  match t with
  | .output => keep m bytes
  | .complaints => discard (Work.ask (.write 2 bytes))
  | .file name =>
    match (← get).files.lookup name with
    | some stream => discard (Work.ask (.write stream bytes))
    | none => return
  | .edited =>
    if (← get).editing.isSome then modify fun e => { e with edited := bytes :: e.edited }
    else keep m bytes

/-- Ends the last line of a target, if it has no end. -/
def endLine (m : Manner) (t : Target) : Edit Unit := do
  if (← get).unended.contains t then
    modify fun e => { e with unended := e.unended.filter (· != t) }
    send m t [m.delimiter]

/-- Writes bytes behind whole lines. -/
def emitRaw (m : Manner) (t : Target) (bytes : List UInt8) : Edit Unit := do
  endLine m t
  send m t bytes

/-- Writes a line. -/
def emitLine (m : Manner) (t : Target) (cs : List Char) (isEnded : Bool) : Edit Unit := do
  let bytes := Letters.toBytes cs
  emitRaw m t (if isEnded then bytes ++ [m.delimiter] else bytes)
  if !isEnded then modify fun e => { e with unended := t :: e.unended }

/-- Writes the pattern space. -/
def emitSpace (m : Manner) (t : Target) : Edit Unit := do
  let e ← get
  emitLine m t e.space e.isEnded

/-- Writes what was put off to the end of the cycle. -/
def writeQueue (m : Manner) : Edit Unit := do
  let queue := (← get).queue.reverse
  modify fun e => { e with queue := [] }
  for q in queue do
    match q with
    | .text bytes => emitRaw m .edited bytes
    | .file name =>
      endLine m .edited
      match ← slurp name with
      | .ok bytes => send m .edited bytes
      | .error .isDirectory => fail m ("read error on " ++ name ++ ": Is a directory") 4
      | .error _ => pure ()

/-! ## Files that are edited in place -/

/-- The name of the old version of a file. -/
def oldName (name suffix : String) : String :=
  let base := ((name.splitOn "/").getLast?).getD name
  let dir := String.ofList (name.toList.take (name.length - base.length))
  let old := if suffix.contains '*' then base.intercalate (suffix.splitOn "*") else base ++ suffix
  if old.contains '/' then old else dir ++ old

/-- The files after one of them was edited. -/
def replaceFile (name suffix : String) (bytes : List UInt8) (fs : FileSystem) :
    Except FileFault FileSystem := do
  let executable := (fs.stat (pathOf name)).toOption.any (·.2 matches .file _ true)
  match ← fs.resolveLink (pathOf name) with
  | .free _ _ => throw .notFound
  | .node place node =>
    let fs ←
      if suffix == "" then pure fs
      else
        match ← fs.resolveLink (pathOf (oldName name suffix)) with
        | .free parent old => pure (fs.put (parent ++ [old]) node)
        | .node _ (.dir _) => throw .isDirectory
        | .node old _ => pure (fs.put old node)
    return fs.put place (.file bytes executable)

/-- Replaces the file that was edited in place, if there is one. -/
def finishFile (m : Manner) : Edit Unit := do
  let e ← get
  match e.editing with
  | none => return
  | some name =>
    set { e with editing := none, edited := [], unended := e.unended.filter (· != Target.edited) }
    match ← Work.change (replaceFile name (m.inPlace.getD "") e.edited.reverse.flatten) with
    | .ok () => return
    | .error fault => fail m ("cannot rename " ++ name ++ ": " ++ fault.summary) 4

/-! ## Reading -/

/-- The lines of bytes, with what ends them, and the beginning of another one. -/
def splitAt (delimiter : UInt8) (bytes : List UInt8) : List (List UInt8) × List UInt8 :=
  let (lines, begun) := bytes.foldl (fun (s : List (List UInt8) × List UInt8) b =>
    if b == delimiter then ((b :: s.2).reverse :: s.1, []) else (s.1, b :: s.2)) ([], [])
  (lines.reverse, begun.reverse)

/-- Whether the open input has another line. -/
def refill (m : Manner) : Nat → Edit Bool
  | 0 => return false
  | fuel + 1 => do
    let e ← get
    match e.lines, e.stream with
    | _ :: _, _ => return true
    | [], none => return false
    | [], some stream =>
      let isFile ← if stream == 0 then pure (← Work.ask (.place 0)).isSome else pure false
      let request :=
        if isFile && m.delimiter == 10 then Request.readLine stream
        else Request.read stream Work.portion
      match ← Work.ask request with
      | .error fault =>
        let name := if e.source == "-" then "stdin" else e.source
        fail m ("read error on " ++ name ++ ": " ++ fault.summary) 4
      | .ok [] =>
        closeInput stream
        let lines := if e.begun.isEmpty then [] else [e.begun]
        modify fun e => { e with stream := none, begun := [], lines }
        return !lines.isEmpty
      | .ok bytes =>
        let (lines, begun) := splitAt m.delimiter (e.begun ++ bytes)
        modify fun e => { e with lines, begun }
        refill m fuel

/-- What a command is within before any line. -/
def Range.start (c : Command) : Range :=
  if c.selection.first matches some (.line 0) then .within none else .waiting

/-- Begins with an input of its own. -/
def startFile (m : Manner) (name : String) : Edit Unit := do
  finishFile m
  modify fun e => { e with
    number := 0
    ranges := m.script.commands.map Range.start
    editing := if m.inPlace.isSome then some name else none }

/-- Opens the next input, if there is one. -/
def openNext (m : Manner) : Nat → Edit Bool
  | 0 => return false
  | fuel + 1 => do
    match (← get).waiting with
    | [] => return false
    | name :: waiting =>
      modify fun e => { e with waiting }
      let unread (fault : FileFault) : Edit Bool := do
        complain m.call ("can't read " ++ name ++ ": " ++ fault.summary)
        modify fun e => { e with status := 2 }
        openNext m fuel
      let opened (stream : Nat) : Edit Bool := do
        if m.isSeparate then startFile m name
        modify fun e => { e with stream := some stream, source := name }
        return true
      if m.inPlace.isNone then
        match ← openInput name with
        | .error fault => unread fault
        | .ok stream => opened stream
      else
        match ← Work.look fun fs => fs.stat (pathOf name) with
        | .ok (_, .file _ _) =>
          match ← Work.ask (.open (pathOf name) .read) with
          | .error fault => unread fault
          | .ok stream => opened stream
        | .ok _ =>
          complain m.call ("couldn't edit " ++ name ++ ": not a regular file")
          modify fun e => { e with status := 4 }
          openNext m fuel
        | .error fault => unread fault

/-- Whether there is another line. -/
def hasMore (m : Manner) : Nat → Edit Bool
  | 0 => return false
  | fuel + 1 => do
    if ← refill m Work.rounds then return true
    else if m.isSeparate then return false
    else if ← openNext m Work.rounds then hasMore m fuel
    else return false

/-- Takes the next line, and whether it has an end. What was put off is written first. -/
def nextLine? (m : Manner) : Nat → Edit (Option (List Char × Bool))
  | 0 => return none
  | fuel + 1 => do
    writeQueue m
    if ← refill m Work.rounds then
      match (← get).lines with
      | [] => return none
      | line :: lines =>
        let isEnded := line.getLast? == some m.delimiter
        modify fun e => { e with
          lines, number := e.number + 1, name := e.source, hasReplaced := false }
        return some (Letters.ofBytes (if isEnded then line.dropLast else line), isEnded)
    else if ← openNext m Work.rounds then nextLine? m fuel
    else return none

/-- Reads the next line into the pattern space. -/
def readSpace (m : Manner) : Edit Bool := do
  match ← nextLine? m Work.rounds with
  | none => return false
  | some (space, isEnded) =>
    modify fun e => { e with space, isEnded }
    return true

/-! ## Selections -/

/-- The expression that is sought. -/
def resolve (m : Manner) (s : Sought) : Edit Regex.Matcher := do
  match s.or (← get).lastSought with
  | some matcher =>
    modify fun e => { e with lastSought := some matcher }
    return matcher
  | none => fail m "-e expression #1, char 0: no previous regular expression" 1

/-- Whether an address tells the present line. -/
def isAt (m : Manner) : Address → Edit Bool
  | .line n => return (← get).number == n
  | .every first step => do
    let n := (← get).number
    return first ≤ n && (n - first) % step == 0
  | .last => return !(← hasMore m Work.rounds)
  | .holding s => do
    let matcher ← resolve m s
    return (matcher.search (← get).space 0).isSome

/-- The range that begins at a line. -/
def Bound.begin (number : Nat) : Bound → Range
  | address (.line n) => if n ≤ number then .waiting else .within (some n)
  | address _ => .within none
  | after count => if count == 0 then .waiting else .within (some (number + count))
  | multiple factor =>
    if factor == 0 then .waiting else .within (some ((number / factor + 1) * factor))

/-- Whether the command at a place is for the present line, apart from a negation. -/
def isWithin (m : Manner) (place : Nat) (s : Selection) : Edit Bool := do
  let setRange (r : Range) : Edit Unit :=
    modify fun e => { e with ranges := e.ranges.setIfInBounds place r }
  match s.first, s.second with
  | none, _ => return true
  | some first, none => isAt m first
  | some first, some second =>
    let number := (← get).number
    match (← get).ranges.getD place .waiting, second with
    | .waiting, second =>
      if ← isAt m first then
        setRange (second.begin number)
        return true
      else return false
    | .within (some stop), _ =>
      if stop ≤ number then setRange .waiting
      return number ≤ stop
    | .within none, .address a =>
      if ← isAt m a then setRange .waiting
      return true
    | .within none, _ => return true

/-! ## Substitutions -/

/-- A letter in a casing. -/
def Casing.apply : Casing → Char → Char
  | kept, c => c
  | capital, c => Regex.capital c
  | small, c => Regex.small c

/-- What pieces give for a match, with the casing of what follows. What is there already comes last
first. -/
def expand (groups : Nat → List Char) :
    List Piece → Casing → Option Casing → List (List Char) → List Char
  | [], _, _, done => done.reverse.flatten
  | .casing c :: ps, _, _, done => expand groups ps c none done
  | .casingOnce c :: ps, casing, _, done => expand groups ps casing (some c) done
  | .text cs :: ps, casing, once, done => addText ps casing once done cs
  | .group n :: ps, casing, once, done => addText ps casing once done (groups n)
where
  /-- Goes on behind a text. -/
  addText (ps : List Piece) (casing : Casing) (once : Option Casing) (done : List (List Char)) :
      List Char → List Char
    | [] => expand groups ps casing once done
    | c :: cs =>
      let cased := (once.getD casing).apply c :: cs.map casing.apply
      expand groups ps casing none (cased :: done)

/-- The text of a group in a match. -/
def groupText (text : List Char) (found : Array (Option Nat)) (n : Nat) : List Char :=
  match found.getD (2 * n) none, found.getD (2 * n + 1) none with
  | some first, some last => Regex.Matcher.slice text first last
  | _, _ => []

/-- A text from a place on with matches replaced. Before it the previous match ends at `previous`, and
there were `count` of them. What is there already comes last first. -/
def replaceFrom (matcher : Regex.Matcher) (s : Substitution) (text : List Char) :
    Nat → Nat → Option Nat → Nat → List (List Char) → Bool → List Char × Bool
  | 0, _, _, _, done, changed => (done.reverse.flatten, changed)
  | fuel + 1, start, previous, count, done, changed =>
    let finish (start : Nat) (done : List (List Char)) (changed : Bool) : List Char × Bool :=
      ((text.drop start :: done).reverse.flatten, changed)
    match matcher.search text start with
    | none => finish start done changed
    | some found =>
      let (first, last) := Regex.Matcher.ends found
      let done := Regex.Matcher.slice text start first :: done
      if first == last && previous == some first then
        match text[first]? with
        | none => finish first done changed
        | some c => replaceFrom matcher s text fuel (first + 1) none count ([c] :: done) changed
      else
        let replaces := s.number ≤ count + 1
        let piece :=
          if replaces then expand (groupText text found) s.pieces .kept none []
          else Regex.Matcher.slice text first last
        let done := piece :: done
        if replaces && !s.everywhere then finish last done true
        else if first == last then
          match text[first]? with
          | none => finish first done (changed || replaces)
          | some c =>
            replaceFrom matcher s text fuel (first + 1) none (count + 1) ([c] :: done)
              (changed || replaces)
        else
          replaceFrom matcher s text fuel last (some last) (count + 1) done (changed || replaces)

/-- The output of a command. -/
def outputOf (m : Manner) (command : List UInt8) : Work (List UInt8) := do
  let (reader, writer) ← Work.ask .pipe
  let child : Work Nat := do
    discard (Work.ask (.copy writer 1))
    Work.ask (.close reader)
    Work.ask (.close writer)
    discard (m.exec Exec.shellPath ["sh", "-c", Bytes.ofBytes command] m.call.environment)
    return 127
  let id ← Work.fork child.toTask
  Work.ask (.close writer)
  let bytes ← Work.readAll reader
  Work.ask (.close reader)
  discard (awaitChild id)
  return bytes.toOption.getD []

/-- Carries out the pattern space as a command, and puts its output there. -/
def evaluateSpace (m : Manner) : Edit Unit := do
  flush m
  let bytes ← outputOf m (Letters.toBytes (← get).space)
  modify fun e => { e with space := Letters.ofBytes (chomp bytes) }

/-- Carries out a substitution. -/
def substitute (m : Manner) (s : Substitution) : Edit Unit := do
  let matcher ← resolve m s.sought
  let text := (← get).space
  let (space, changed) := replaceFrom matcher s text (text.length + 2) 0 none 0 [] false
  if changed then
    modify fun e => { e with space, hasReplaced := true }
    if s.evaluates then evaluateSpace m
    if s.prints then emitSpace m .edited
    match s.target with
    | some t => emitSpace m t
    | none => return

/-! ## Actions -/

/-- A byte of a listing. -/
def listed (b : UInt8) : List UInt8 :=
  let c := Bytes.charOf b
  if c == '\\' then Bytes.toBytes "\\\\"
  else if 32 ≤ b && b < 127 then [b]
  else Bytes.toBytes (Quoted.escape c)

/-- A listing in lines that are not longer than a width, after a line with a number of characters.
What is there already comes last first. -/
def listing (width : Nat) : List UInt8 → Nat → List (List UInt8) → List UInt8
  | [], _, done => done.reverse.flatten ++ Bytes.toBytes "$\n"
  | b :: bs, column, done =>
    let piece := listed b
    if 0 < width && width - 1 < column + piece.length then
      listing width bs piece.length (piece :: Bytes.toBytes "\\\n" :: done)
    else listing width bs (column + piece.length) (piece :: done)

/-- The next line of a file that is read line by line. -/
def lineOf? (name : String) : Edit (Option (List UInt8)) := do
  let lines ←
    match (← get).readers.lookup name with
    | some lines => pure lines
    | none => pure (linesOf (((← slurp name).toOption).getD []))
  let readers := (← get).readers.filter fun r => r.1 != name
  modify fun e => { e with readers := (name, lines.drop 1) :: readers }
  return lines.head?

/-- The first line of the pattern space, and what follows it if there is another one. -/
def firstLine (space : List Char) : List Char × Option (List Char) :=
  match space.dropWhile (· != '\n') with
  | [] => (space, none)
  | _ :: rest => (space.takeWhile (· != '\n'), some rest)

/-- Writes the first line of the pattern space. -/
def emitFirst (m : Manner) (t : Target) : Edit Unit := do
  let e ← get
  let (line, rest?) := firstLine e.space
  emitLine m t line (rest?.isSome || e.isEnded)

/-- How long an editor takes to go on elsewhere. -/
def jumpCost : Nat :=
  20000

/-- Goes on at a label, or behind the last command. -/
def goTo (m : Manner) (label : String) : Edit Outcome := do
  Work.ask (.pass jumpCost)
  return .goTo ((m.script.labels.lookup label).getD m.script.commands.size)

/-- Carries out what the command at a place does. -/
def perform (m : Manner) (place : Nat) (action : Action) : Edit Outcome := do
  match action with
  | .block _ | .nothing => return .next
  | .append text => modify fun e => { e with queue := .text text :: e.queue }
  | .insert text => emitRaw m .edited text
  | .change text =>
    if ((← get).ranges.getD place .waiting) == .waiting then emitRaw m .edited text
    return .turn (.over false)
  | .jump .always label => return (← goTo m label)
  | .jump .ifReplaced label =>
    let replaced := (← get).hasReplaced
    modify fun e => { e with hasReplaced := false }
    if replaced then return (← goTo m label)
  | .jump .unlessReplaced label =>
    let replaced := (← get).hasReplaced
    modify fun e => { e with hasReplaced := false }
    if !replaced then return (← goTo m label)
  | .delete => return .turn (.over false)
  | .deleteLine =>
    match (firstLine (← get).space).2 with
    | none => return .turn (.over false)
    | some rest =>
      modify fun e => { e with space := rest }
      return .turn .again
  | .evaluate command =>
    if command.isEmpty then
      evaluateSpace m
      modify fun e => { e with isEnded := true }
    else
      flush m
      emitRaw m .edited (← outputOf m command)
  | .showName => emitLine m .edited (Letters.ofText (← get).name) true
  | .takeHeld => modify fun e => { e with space := e.held, isEnded := e.isHeldEnded }
  | .addHeld =>
    modify fun e => { e with space := e.space ++ '\n' :: e.held, isEnded := e.isHeldEnded }
  | .hold => modify fun e => { e with held := e.space, isHeldEnded := e.isEnded }
  | .addToHeld =>
    modify fun e => { e with held := e.held ++ '\n' :: e.space, isHeldEnded := e.isEnded }
  | .exchange =>
    modify fun e => { e with
      space := e.held, isEnded := e.isHeldEnded, held := e.space, isHeldEnded := e.isEnded }
  | .list width =>
    emitRaw m .edited (listing (width.getD m.width) (Letters.toBytes (← get).space) 0 [])
  | .next =>
    if !(← hasMore m Work.rounds) then return .turn (.over true)
    if !m.isQuiet then emitSpace m .edited
    discard (readSpace m)
  | .addNext =>
    if !(← hasMore m Work.rounds) then return .turn (.over true)
    match ← nextLine? m Work.rounds with
    | none => return .turn (.over true)
    | some (line, isEnded) =>
      let join := Bytes.charOf m.delimiter
      modify fun e => { e with space := e.space ++ join :: line, isEnded }
  | .print => emitSpace m .edited
  | .printLine => emitFirst m .edited
  | .quit prints status => return .turn (.quit prints status)
  | .readFile name => modify fun e => { e with queue := .file name :: e.queue }
  | .readLine name =>
    match ← lineOf? name with
    | none => pure ()
    | some line => modify fun e => { e with queue := .text line :: e.queue }
  | .substitute s => substitute m s
  | .write t => emitSpace m t
  | .writeLine t => emitFirst m t
  | .transliterate pairs =>
    modify fun e => { e with space := e.space.map fun c => (pairs.lookup c).getD c }
  | .number => emitRaw m .edited (Bytes.toBytes (toString (← get).number ++ "\n"))
  | .clear => modify fun e => { e with space := [] }
  return .next

/-- Carries out the commands from a place on. -/
def run (m : Manner) : Nat → Nat → Edit Turn
  | 0, _ => return .over false
  | fuel + 1, place => do
    match m.script.commands[place]? with
    | none => return .over true
    | some c =>
      if (← isWithin m place c.selection) != c.selection.negated then
        match ← perform m place c.action with
        | .next => run m fuel (place + 1)
        | .goTo place => run m fuel place
        | .turn t => return t
      else
        match c.action with
        | .block stop => run m fuel stop
        | _ => run m fuel (place + 1)

/-- Carries out cycles, where `reads` tells whether the next one begins with another line. Gives the
status to end with. -/
def cycles (m : Manner) : Nat → Bool → Edit Nat
  | 0, _ => return 1
  | fuel + 1, reads => do
    let isThere ← if reads then readSpace m else pure true
    if !isThere then return 0
    else
      let print (prints : Bool) : Edit Unit := do
        if prints && !m.isQuiet then emitSpace m .edited
        writeQueue m
      match ← run m Work.rounds 0 with
      | .over prints =>
        print prints
        cycles m fuel true
      | .again =>
        print false
        cycles m fuel false
      | .quit prints status =>
        print prints
        return status

/-- Whether a command is carried out before the first line. -/
def isFirstOfAll (c : Command) : Bool :=
  c.selection.first matches some (.line 0) && c.selection.second.isNone

/-- Edits the lines of inputs, with files that are written. Gives a status. -/
def edit (m : Manner) (files : List (String × Nat)) (inputs : List String) : Work Nat := do
  let all : Edit Nat := do
    for c in m.script.commands do
      if isFirstOfAll c then
        match c.action with
        | .readFile name => modify fun e => { e with queue := .file name :: e.queue }
        | _ => pure ()
    let status ← cycles m Work.rounds true
    finishFile m
    flush m
    let e ← get
    return if e.status == 0 then status else e.status
  let (status, _) ← all.run {
    waiting := inputs, stream := none, source := "-", lines := [], begun := [], name := "-"
    number := 0, space := [], isEnded := true, held := [], isHeldEnded := true, hasReplaced := false, queue := []
    ranges := m.script.commands.map Range.start, lastSought := none, written := [], size := 0
    editing := none, edited := [], files, unended := [], readers := [], status := 0 }
  return status

end LintRoster.Machine.Tool.Sed
