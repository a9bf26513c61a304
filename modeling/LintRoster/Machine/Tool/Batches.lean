import LintRoster.Machine.Tool.Spawn

/-!
# Programs with arguments from an input

A tool that reads words and starts programs with them as arguments, a batch of words at a time.
-/

namespace LintRoster.Machine.Tool

/-- A word of an input, and whether it is the last one of its line. -/
structure InputWord where
  bytes : List UInt8
  endsLine : Bool

/-- The words of an input, and what is wrong with it. The present word, which comes last first, has
begun if there is one. Words that were read come last first. Blanks end words unless whole lines are
words. -/
def inputWords (wholeLines : Bool) :
    Nat → Option (List UInt8) → List InputWord → List UInt8 → List InputWord × Option String
  | 0, _, done, _ => (done.reverse, none)
  | _, word?, done, [] =>
    (((word?.map fun w => InputWord.mk w.reverse true).toList ++ done).reverse, none)
  | fuel + 1, word?, done, b :: bs =>
    let word := word?.getD []
    let go := inputWords wholeLines fuel
    if b == 10 then
      match word? with
      | some w => go none (⟨w.reverse, true⟩ :: done) bs
      | none => go none (done.modifyHead fun w => { w with endsLine := true }) bs
    else if b == 32 || b == 9 then
      match word? with
      | none => go none done bs
      | some w =>
        if wholeLines then go (some (b :: w)) done bs else go none (⟨w.reverse, false⟩ :: done) bs
    else if b == 92 then
      match bs with
      | c :: bs => go (some (c :: word)) done bs
      | [] => go (some word) done []
    else if b == 39 || b == 34 then
      let quoted := bs.takeWhile fun c => c != b && c != 10
      if (bs.drop quoted.length).head? == some b then
        go (some (quoted.reverse ++ word)) done (bs.drop (quoted.length + 1))
      else
        let kind := if b == 39 then "single" else "double"
        (done.reverse, some ("unmatched " ++ kind ++
          " quote; by default quotes are special to xargs unless you use the -0 option"))
    else go (some (b :: word)) done bs

/-- The pieces of an input between certain bytes. -/
def inputPieces (separator : UInt8) (bytes : List UInt8) : List InputWord :=
  let pieces := bytes.splitOnP (· == separator)
  let pieces := if pieces.getLast? == some [] then pieces.dropLast else pieces
  pieces.map fun piece => ⟨piece, true⟩

/-- How words are put into batches. -/
inductive Batching where
  | all
  | words (count : Nat)
  | lines (count : Nat)
  /-- Every word for itself, in the place of a mark in the arguments. -/
  | replacing (mark : String)

/-- Words in batches of a number of lines. -/
def byLines (count : Nat) : Nat → List InputWord → List InputWord → List (List InputWord)
  | _, [], [] => []
  | _, batch, [] => [batch.reverse]
  | seen, batch, w :: ws =>
    let seen := if w.endsLine then seen + 1 else seen
    if count ≤ seen then (w :: batch).reverse :: byLines count 0 [] ws
    else byLines count seen (w :: batch) ws

/-- The longest batch, in bytes. -/
def batchLimit : Nat :=
  128000

/-- Words in batches of a number of words that are not too long. -/
def byWords (count : Nat) : Nat → Nat → List InputWord → List InputWord → List (List InputWord)
  | _, _, [], [] => []
  | _, _, batch, [] => [batch.reverse]
  | seen, size, batch, w :: ws =>
    let length := w.bytes.length + 1
    if count ≤ seen || (batchLimit < size + length && !batch.isEmpty) then
      batch.reverse :: byWords count 1 length [w] ws
    else byWords count (seen + 1) (size + length) (w :: batch) ws

/-- A text with each occurrence of a mark replaced. -/
def replaceMarks (mark value text : String) : String :=
  if mark == "" then text else String.intercalate value (text.splitOn mark)

/-- The arguments of the programs to be started. -/
def commandsFor (batching : Batching) (isNeeded : Bool) (arguments : List String)
    (words : List InputWord) : List (List String) :=
  let text (w : InputWord) : String := Bytes.ofBytes w.bytes
  let commands (batches : List (List InputWord)) : List (List String) :=
    if batches.isEmpty then if isNeeded then [] else [arguments]
    else batches.map fun batch => arguments ++ batch.map text
  match batching with
  | .all => commands (byWords (words.length + 1) 0 0 [] words)
  | .words count => commands (byWords count 0 0 [] words)
  | .lines count => commands (byLines count 0 [] words)
  | .replacing mark => words.map fun w => arguments.map (replaceMarks mark (text w))

/-- Starts programs one after the other. -/
def runBatches (exec : Exec) (call : Call) (shows : Bool) : List (List String) → Nat → Work Nat
  | [], status => return status
  | arguments :: rest, status => do
    let name := arguments.headD ""
    if shows then discard (writeTo 2 (String.intercalate " " arguments ++ "\n"))
    match ← Work.look (startFault? call name) with
    | some fault =>
      complain call (name ++ ": " ++ fault.summary)
      return launchStatus fault
    | none =>
      match ← awaitChild (← start exec call (fun name => name) arguments) with
      | .killed signal =>
        complain call (name ++ ": terminated by signal " ++ toString signal)
        return 125
      | .exited 255 =>
        complain call (name ++ ": exited with status 255; aborting")
        return 124
      | .exited 0 => runBatches exec call shows rest status
      | .exited _ => runBatches exec call shows rest 123

/-- The byte that a description of a separator means. -/
def separatorOf (text : String) : UInt8 :=
  match (unescapeFrom (text.length + 1) [] text.toList).1 with
  | c :: _ => Bytes.byteOf c
  | [] => 0

/-- Starts programs with words of the input as arguments. -/
def xargs : Tool := fun exec call => do
  let spec : Options := {
    letters := "0a:d:E:e::I:i::L:l::n:oP:prs:tx"
    names := [("null", .nothing, '0'), ("arg-file", .required, 'a'), ("delimiter", .required, 'd'),
      ("replace", .optional, 'i'), ("max-lines", .optional, 'l'), ("max-args", .required, 'n'),
      ("max-procs", .required, 'P'), ("no-run-if-empty", .nothing, 'r'), ("verbose", .nothing, 't')]
    inFront := true }
  withOptions call spec 1 fun given => do
    let badNumber := (['n', 'L', 'P', 's'].filterMap fun c => (given.value? c).map fun w => (c, w)).find?
      fun entry => entry.2.toNat?.isNone
    match badNumber with
    | some (c, w) =>
      misused call 1 ("invalid number \"" ++ w ++ "\" for -" ++ String.singleton c ++ " option")
    | none =>
      match ← slurp ((given.value? 'a').getD "-") with
      | .error fault =>
        let name := (given.value? 'a').getD "-"
        complain call ("Cannot open input file " ++ Quoted.curved name ++ ": " ++ fault.summary)
        return 1
      | .ok bytes =>
        let number (c : Char) : Nat := max 1 (((given.value? c).bind String.toNat?).getD 1)
        let batching : Batching :=
          match given.last? ['I', 'i', 'L', 'l', 'n'] with
          | some 'n' =>
            match given.value? 'I' with
            | some mark => if number 'n' == 1 then .replacing mark else .words (number 'n')
            | none => .words (number 'n')
          | some 'I' => .replacing ((given.value? 'I').getD "")
          | some 'i' =>
            let mark := (given.value? 'i').getD ""
            .replacing (if mark == "" then "\x7b\x7d" else mark)
          | some c => .lines (number c)
          | none => .all
        let wholeLines := match batching with | .replacing _ => true | _ => false
        let (words, complaint?) :=
          match given.last? ['0', 'd'] with
          | some '0' => (inputPieces 0 bytes, none)
          | some _ => (inputPieces (separatorOf ((given.value? 'd').getD "")) bytes, none)
          | none => inputWords wholeLines (bytes.length + 1) none [] bytes
        let arguments := if given.operands.isEmpty then ["echo"] else given.operands
        let commands := commandsFor batching (given.has 'r') arguments words
        match complaint? with
        | some complaint => complain call complaint
        | none => pure ()
        let commands := if complaint?.isSome && words.isEmpty then [] else commands
        if !given.has 'a' then
          match ← Work.ask (.open ⟨"/dev/null"⟩ .read) with
          | .ok stream => discard (Work.ask (.copy stream 0))
          | .error _ => pure ()
        let status ← runBatches exec call (given.has 't') commands 0
        return if complaint?.isSome then 1 else status

end LintRoster.Machine.Tool
