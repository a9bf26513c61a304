import LintRoster.Shell.Builtin.Table
import LintRoster.Shell.Reader
import LintRoster.Shell.Redirection

/-!
# Steps of a shell

What a shell does for the parts of a statement: it expands the words of a command and finds out what
they name, starts programs and the stages of pipelines, goes through loops and functions. The
statements within are carried out by functions that are passed in.
-/

namespace LintRoster.Shell.Step

open Machine (Exec Work Request)

/-- What a command of the shell costs, in nanoseconds. -/
def commandCost : Nat :=
  4000

/-- How a statement is carried out. -/
structure Manner where
  /-- Whether somebody looks at its failure. -/
  tested : Bool
  /-- Whether it is the last that the shell has to do. -/
  last : Bool

namespace Manner

/-- A statement in the middle of a script. -/
def plain : Manner :=
  ⟨false, false⟩

/-- A statement whose failure is looked at. -/
def test : Manner :=
  ⟨true, false⟩

/-- A statement within another one, which is not the last. -/
def within (m : Manner) : Manner :=
  { m with last := false }

/-- The last statement of a shell. -/
def final (m : Manner) : Manner :=
  { m with last := true }

end Manner

/-! ## Parts of simple commands -/

/-- A simple command whose words are being expanded, up to the word that names what is carried out. -/
structure Head where
  /-- The words that were passed over. -/
  passed : List String
  /-- The words from the name on. -/
  words : List String
  /-- The words that were not expanded yet. -/
  rest : List Word
  /-- Whether the name may be one of a function. -/
  functions : Bool
  /-- Where the command is searched, if not along the search path. -/
  searchPath : Option String
  /-- Whether the first command of the shell itself that was named is special. There is no answer if
  none was named. -/
  special : Option Bool
  /-- Whether the name is one of a command of the shell itself. -/
  isBuiltin : Bool

namespace Head

/-- Whether a fault in the command ends the shell. -/
def isSpecial (h : Head) : Bool :=
  h.special == some true

/-- Whether assignments in front of the command are for it alone. -/
def isLocal (h : Head) : Bool :=
  !h.words.isEmpty && !h.isSpecial

/-- Whether the command replaces the shell. -/
def execs (h : Head) : Bool :=
  h.isBuiltin && h.words.head? == some "exec"

/-- Whether the arguments of the command may be assignments. -/
def assigns (h : Head) : Bool :=
  h.isBuiltin && (h.words.head?.any Builtin.assigning.contains)

end Head

variable (capture : Statement → Sh String)

/-- Expands words until there is a field, and gives the words that are left. -/
def firstFields : List Word → Sh (List String × List Word)
  | [] => return ([], [])
  | w :: ws => do
    match ← Expansion.fields capture w with
    | [] => firstFields ws
    | fields => return (fields, ws)

/-- Fields, of which there is at least one if more words have any. -/
def someFields (fields : List String) (rest : List Word) : Sh (List String × List Word) :=
  if fields.isEmpty then firstFields capture rest else return (fields, rest)

/-- The fields behind the options of a command that names another one, with the fields that were
passed over and the words that are left. Any other option than one for the search path keeps the
command from naming another one. -/
def behindOptions (passed : List String) :
    Nat → Bool → List String → List Word →
      Sh (Option Bool × List String × List String × List Word)
  | 0, _, fields, rest => return (none, passed, fields, rest)
  | fuel + 1, usual, fields, rest => do
    let (fields, rest) ← someFields capture fields rest
    match fields with
    | [] => return (none, passed, [], [])
    | w :: ws =>
      match w.toList with
      | ['-', '-'] =>
        let (ws, rest) ← someFields capture ws rest
        if ws.isEmpty then return (none, passed, [w], [])
        else return (some usual, passed ++ [w], ws, rest)
      | '-' :: c :: cs =>
        if (c :: cs).all (· == 'p') then
          behindOptions (passed ++ [w]) fuel true ws rest
        else return (none, passed, fields, rest)
      | _ => return (some usual, passed, fields, rest)

/-- Whether a name is one of a function. -/
def isFunction (name : String) : Sh Bool := do
  return (← get).functions.any fun f => f.1 == name

/-- Finds out what a simple command carries out. -/
def resolveHead : Nat → Head → Sh Head
  | 0, h => return h
  | fuel + 1, h => do
    match h.words with
    | [] => return h
    | name :: args =>
      let builtin := Builtin.isName name && !(h.functions && (← isFunction name))
      if !builtin then return { h with isBuiltin := false }
      let special := h.special.or (some (Builtin.special.contains name))
      let h := { h with special, isBuiltin := true }
      if name != "command" then return h
      match ← behindOptions capture [name] (args.length + 100) false args h.rest with
      | (none, passed, fields, rest) => return { h with words := passed ++ fields, rest }
      | (some usual, passed, fields, rest) =>
        resolveHead fuel { h with
          passed := h.passed ++ passed
          words := fields
          rest
          functions := false
          searchPath := if usual then some Machine.defaultSearchPath else h.searchPath }

/-- The fields of a word that may be an assignment, which does not fall apart. -/
def assignmentFields (w : Word) : Sh (List String) := do
  match Word.assignment? w with
  | some (name, value) => return [name ++ "=" ++ (← Expansion.text capture Aim.value value)]
  | none => Expansion.fields capture w

/-- Expands the words of a simple command. -/
def expandWords (words : List Word) : Sh Head := do
  let (fields, rest) ← firstFields capture words
  let h ← resolveHead capture 100 ⟨[], fields, rest, true, none, none, false⟩
  let expand := if h.assigns then assignmentFields capture else Expansion.fields capture
  let more ← h.rest.mapM expand
  return { h with words := h.words ++ more.flatten, rest := [] }

/-- Makes the assignments in front of a command. -/
def assignAll (isLocal exports : Bool) : List (String × Word) → Sh (List String)
  | [] => return []
  | (name, w) :: rest => do
    let value ← Expansion.text capture Aim.value w
    if isLocal then Sh.keepLocal name
    Sh.assign name value
    if isLocal || exports then Sh.exportName name
    return (name ++ "=" ++ value) :: (← assignAll isLocal exports rest)

/-- The text in front of traced commands. -/
def traceFront : Sh String := do
  let s ← get
  let text := (s.value? "PS4").getD ""
  match Reader.document text s.aliases with
  | .ok w => Expansion.document capture w
  | .error _ => return text

/-- Traces a command, where that is asked for. -/
def trace (words : List String) : Sh Unit := do
  if ← Sh.isOn 'x' then
    let stream ← Redirection.traceStream
    let front ← traceFront capture
    Sh.write stream (front ++ String.intercalate " " words ++ "\n")

/-! ## Starting programs -/

variable (exec : Exec)

/-- Goes on as one of the programs at some paths. Gives the fault that keeps all of them from being
started. -/
def launchFrom (arguments : List String) (fault : FileFault) : List String → Sh FileFault
  | [] => return fault
  | path :: paths => do
    let environment := (← get).environment
    let found ← Sh.work (exec path arguments environment)
    let found ←
      if found == .notRunnable then
        let shell := Exec.shellPath
        Sh.work (exec shell (shell :: path :: arguments.drop 1) environment)
      else pure found
    if found == .notFound || found == .notDirectory then launchFrom arguments fault paths
    else launchFrom arguments found paths

/-- The status of a shell that could not start a program. -/
def launchStatus (fault : FileFault) : Nat :=
  if [.notFound, .notDirectory, .tooManyLinks, .nameTooLong].contains fault then 127 else 126

/-- Goes on as a program. If that is not possible, the shell is left. -/
def launch (paths arguments : List String) : Sh Unit := do
  let fault ← launchFrom exec arguments .notFound paths
  Sh.report (Meaning.missingMessage (arguments.headD "") fault)
  Sh.setStatus (launchStatus fault)
  throw .ended

/-- Whether actions are set for signals or for the end of the shell. -/
def hasTraps : Sh Bool := do
  return (← get).traps.any fun trap => trap.2 != ""

/-- Carries out a program, in place of the shell if that has nothing else to do. -/
def program (last : Bool) (paths arguments : List String) : Sh Nat := do
  if last && !(← hasTraps) then
    launch exec paths arguments
    return 0
  else
    let id ← Sh.start do discard (Sh.outcome (launch exec paths arguments))
    Sh.finishJob (← Sh.addJob [id] "" false)

/-- The status of a command that is not there. -/
def reportMissing (name : String) (fault : FileFault) : Sh Nat := do
  Sh.report (Meaning.missingMessage name fault)
  return 127

/-! ## Commands of the shell itself -/

/-- Carries out a command of the shell itself. Only in special ones does a fault end the shell. -/
def builtin (special : Bool) (name : String) (act : Sh Nat) : Sh Nat := do
  let outer := (← get).command
  modify fun s => { s with command := some name }
  let result ← Sh.outcome do
    let status ← act
    let isWritten ← Sh.flush
    if !isWritten then Sh.report (name ++ ": I/O error")
    Sh.setStatus (if isWritten then status else status ||| 1)
  modify fun s => { s with command := outer, pending := "" }
  match result with
  | .ok () => return (← get).status
  | .error .fault => if special then throw .fault else return (← get).status
  | .error e => throw e

/-- The path of a script to be sourced. -/
def sourcePath (name : String) : Sh String := do
  if Machine.isPathName name then return name
  let paths := Exec.paths (← Sh.searchPath) name
  let isRegular (fs : FileSystem) (path : String) : Bool :=
    ((fs.stat (Glob.pathOf path)).toOption.map fun found => found.2.isFile).getD false
  match ← Sh.look fun fs => paths.find? (isRegular fs) with
  | some path => return path
  | none => Sh.fault (name ++ ": not found")

/-- The text of a script in a file. -/
def scriptOf (path : String) : Sh String := do
  match ← Sh.ask (.open (Glob.pathOf path) .read) with
  | .error fault => Sh.fault (Redirection.openMessage path fault)
  | .ok stream =>
    let bytes := (← Sh.work (Work.readAll stream)).toOption.getD []
    Sh.ask (.close stream)
    return Bytes.ofBytes (bytes.filter (· != 0))

/-! ## Processes of the shell -/

/-- Makes the streams of a stage of a pipeline those of its process. -/
def connectStage (before : Option Nat) (after : Option (Nat × Nat)) : Sh Unit := do
  match after with
  | some (input, _) => Sh.ask (.close input)
  | none => pure ()
  match before with
  | some input =>
    discard (Sh.ask (.copy input 0))
    Sh.ask (.close input)
  | none => pure ()
  match after with
  | some (_, output) =>
    discard (Sh.ask (.copy output 1))
    Sh.ask (.close output)
  | none => pure ()

/-- Starts the stages of a pipeline, and gives the numbers of their processes. The input of the first
one is given. -/
def startStages (run : Statement → Sh Unit) (inBackground : Bool) :
    Bool → Option Nat → List Statement → Sh (List Nat)
  | _, _, [] => return []
  | isFirst, before, s :: rest => do
    let after ← if rest.isEmpty then pure none else some <$> Sh.ask .pipe
    let id ← Sh.start do
      Sh.becomeChild
      if inBackground then Sh.goToBackground (!isFirst)
      connectStage before after
      run s
    match before with
    | some input => Sh.ask (.close input)
    | none => pure ()
    match after with
    | some (_, output) => Sh.ask (.close output)
    | none => pure ()
    return id :: (← startStages run inBackground false (after.map Prod.fst) rest)

/-- Whether one of the patterns of an arm fits a text. -/
def fitsAny (subject : List Char) : List Word → Sh Bool
  | [] => return false
  | w :: ws => do
    let signs ← Expansion.pattern capture w
    if Pattern.fits (Pattern.ofSigns signs) subject then return true
    else fitsAny subject ws

/-- The first arm of a selection whose patterns fit a text. -/
def chosen? (subject : List Char) : List (List Word × Statement) → Sh (Option Statement)
  | [] => return none
  | (patterns, body) :: arms => do
    if ← fitsAny capture subject patterns then return some body else chosen? subject arms

/-! ## Loops and functions -/

/-- What comes after a round of a loop. -/
inductive Round where
  | next (status : Nat)
  /-- The next round, without what is left of this one. -/
  | again
  | stop

/-- Carries out a round of a loop, which it may end. -/
def round (act : Sh Nat) : Sh Round := do
  match ← Sh.outcome act with
  | .ok status => return .next status
  | .error (.round n) => if n ≤ 1 then return .again else throw (.round (n - 1))
  | .error (.loop n) => if n ≤ 1 then return .stop else throw (.loop (n - 1))
  | .error e => throw e

/-- Carries out something within one more loop. -/
def inLoop (act : Sh Nat) : Sh Nat := do
  modify fun s => { s with loops := s.loops + 1 }
  Sh.ensuring act (modify fun s => { s with loops := s.loops - 1 })

/-- Carries out a loop with a condition. -/
def repeatWhile (untilTrue : Bool) (test body : Sh Nat) : Nat → Nat → Sh Nat
  | 0, status => return status
  | fuel + 1, status => do
    match ← round test with
    | .stop => return status
    | .again => repeatWhile untilTrue test body fuel status
    | .next t =>
      if (t == 0) == untilTrue then return status
      match ← round body with
      | .stop => return 0
      | .again => repeatWhile untilTrue test body fuel 0
      | .next status => repeatWhile untilTrue test body fuel status

/-- Carries out a loop over words. -/
def repeatEach (name : String) (body : Sh Nat) : List String → Nat → Sh Nat
  | [], status => return status
  | w :: ws, _ => do
    Sh.assignNamed name w
    match ← round body with
    | .stop => return 0
    | .again => repeatEach name body ws 0
    | .next status => repeatEach name body ws status

/-- Carries out the body of a function with arguments of its own. -/
def call (arguments : List String) (body : Sh Nat) : Sh Nat := do
  let outer ← get
  set { outer with arguments, optionIndex := 1, optionOffset := none, loops := 0 }
  let result ← Sh.outcome body
  modify fun s => { s with
    arguments := outer.arguments
    optionIndex := outer.optionIndex
    optionOffset := outer.optionOffset
    loops := outer.loops }
  match result with
  | .ok status => return status
  | .error (.function _) => return (← get).status
  | .error e => throw e

/-- Carries out something with the streams that redirections ask for. -/
def redirected (rs : List Redirect) (act : Sh Nat) : Sh Nat := do
  let targets ← rs.mapM (Redirection.target capture)
  Redirection.begin
  let whole : Sh Nat := do
    let status ← Redirection.applyAll capture targets
    if status != 0 then return status else act
  Sh.ensuring whole (Redirection.undo false)

/-- The status that the shell ends with after what it had to do. -/
def statusAfter (s : State) : Except Leave Unit → Nat
  | .error .shell => s.finalStatus.getD s.status
  | _ => s.status

/-- The status that the shell ends with after the action that is set for its end. -/
def statusAfterTrap (status : Nat) : Except Leave Nat → State → Nat
  | .error .fault, s | .error .ended, s => s.status
  | .error .shell, s => s.finalStatus.getD status
  | _, _ => status



end LintRoster.Shell.Step
