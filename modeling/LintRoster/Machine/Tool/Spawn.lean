import LintRoster.Machine.Signal
import LintRoster.Machine.Tool.Input
import LintRoster.Machine.Tool.Words

/-!
# Tools that start programs

Tools that go on as another program after they changed what it will see, or start programs as children
and tell how these ended.
-/

namespace LintRoster.Machine.Tool

/-! ## Going on as a program -/

/-- The search path of an environment. -/
def searchPathOf (environment : Environment) : String :=
  (environment.get? "PATH").getD "/bin:/usr/bin"

/-- The status of a tool that could not start a program. -/
def launchStatus : FileFault → Nat
  | .notFound => 127
  | _ => 126

/-- Goes on as a program. What keeps it from being started is complained about. -/
def become (exec : Exec) (call : Call) (searchPath : String) (environment : Environment)
    (complaint : String → String) (arguments : List String) : Work Nat := do
  let fault ← Exec.search exec searchPath arguments environment
  complain call (complaint (arguments.headD "") ++ ": " ++ fault.summary)
  return launchStatus fault

/-- Goes on as a program with another standing among processes. -/
def nohup : Tool := fun exec call => do
  match call.arguments with
  | [] => misused call 125 "missing operand"
  | arguments =>
    let arguments := if arguments.head? == some "--" then arguments.drop 1 else arguments
    Work.ask (.dispose 1 .ignored)
    become exec call (searchPathOf call.environment) call.environment
      (fun name => "failed to run command " ++ Quoted.shell name) arguments

/-- Whether a text is an integer. -/
def isInteger (w : String) : Bool :=
  match w.toList with
  | '-' :: cs | '+' :: cs | cs => !cs.isEmpty && cs.all Char.isDigit

/-- Goes on as a program with another priority, or tells the priority. -/
def nice : Tool := fun exec call => do
  let arguments :=
    match call.arguments with
    | w :: rest =>
      match w.toList with
      | '-' :: c :: _ => if c.isDigit || c == '-' && isInteger (String.ofList (w.toList.drop 1)) then
          "-n" :: String.ofList (w.toList.drop 1) :: rest else w :: rest
      | _ => w :: rest
    | [] => []
  withOptions { call with arguments } {
      letters := "n:", names := [("adjustment", .required, 'n')], inFront := true } 125
    fun given => do
      match given.value? 'n' with
      | some w =>
        if !isInteger w then
          complain call ("invalid adjustment " ++ Quoted.curved w)
          return 125
      | none => pure ()
      if given.operands.isEmpty then
        if given.has 'n' then misused call 125 "a command must be given with an adjustment"
        else say call "0\n" 0
      else
        become exec call (searchPathOf call.environment) call.environment Quoted.curved given.operands

/-- Goes on as a program in a session of its own. -/
def setsid : Tool := fun exec call =>
  withOptions call { letters := "cfw", inFront := true } 1 fun given =>
    if given.operands.isEmpty then misused call 1 "no command specified"
    else
      become exec call (searchPathOf call.environment) call.environment
        (fun name => "failed to execute " ++ name) given.operands

/-! ## Another environment -/

/-- Whether an argument gives a variable a value. -/
def isAssignment (w : String) : Bool :=
  w.toList.contains '='

/-- The variable and the value of an argument. -/
def splitAssignment (w : String) : String × String :=
  let name := w.toList.takeWhile (· != '=')
  (String.ofList name, String.ofList (w.toList.drop (name.length + 1)))

/-- Where one is within an argument that is split. -/
inductive Quoting where
  | none
  | single
  | double
deriving DecidableEq

/-- The words of a text, after the present one, which comes last first, if it has begun. -/
def splitText (environment : Environment) :
    Nat → Quoting → Option (List Char) → List Char → Except String (List String)
  | 0, _, _, _ => .ok []
  | _, .none, word?, [] => .ok ((word?.map fun cs => String.ofList cs.reverse).toList)
  | _, _, _, [] => .error "no terminating quote in -S string"
  | fuel + 1, q, word?, c :: cs =>
    let word := word?.getD []
    let go := splitText environment fuel
    match q, c with
    | .single, '\'' => go .none (some word) cs
    | .single, '\\' =>
      match cs with
      | d :: cs =>
        if d == '\'' || d == '\\' then go .single (some (d :: word)) cs
        else go .single (some (d :: '\\' :: word)) cs
      | [] => .error "no terminating quote in -S string"
    | .single, c => go .single (some (c :: word)) cs
    | .double, '"' => go .none (some word) cs
    | .none, '\'' => go .single (some word) cs
    | .none, '"' => go .double (some word) cs
    | .none, '#' => if word?.isNone then .ok [] else go .none (some ('#' :: word)) cs
    | q, '\\' =>
      match cs with
      | [] => .error "invalid backslash at end of string in -S"
      | d :: cs =>
        let escapes : List (Char × Char) :=
          [('n', '\n'), ('t', '\t'), ('r', '\r'), ('f', '\x0c'), ('v', '\x0b'), ('#', '#'),
            ('$', '$'), ('"', '"'), ('\'', '\''), ('\\', '\\')]
        if d == '_' then
          if q == .double then go q (some (' ' :: word)) cs
          else
            match word?, go q none cs with
            | some w, .ok ws => .ok (String.ofList w.reverse :: ws)
            | _, result => result
        else if d == 'c' then
          if q == .double then .error "'\\c' must not appear in double-quoted -S string"
          else .ok ((word?.map fun w => String.ofList w.reverse).toList)
        else
          match escapes.lookup d with
          | some e => go q (some (e :: word)) cs
          | none => .error ("invalid sequence '\\" ++ String.singleton d ++ "' in -S")
    | q, '$' =>
      let name := (cs.drop 1).takeWhile fun c => c.isAlphanum || c == '_'
      if cs.head? == some '\x7b' && (cs.drop (name.length + 1)).head? == some '\x7d' then
        let value := (environment.get? (String.ofList name)).getD ""
        go q (some (value.toList.reverse ++ word)) (cs.drop (name.length + 2))
      else .error "only $\x7bVARNAME\x7d expansion is supported, error at: $"
    | .none, c =>
      if [' ', '\t', '\n', '\r', '\x0b', '\x0c'].contains c then
        match word?, go .none none cs with
        | some w, .ok ws => .ok (String.ofList w.reverse :: ws)
        | _, result => result
      else go .none (some (c :: word)) cs
    | .double, c => go .double (some (c :: word)) cs

/-- The arguments of a tool, with those split that ask for it. -/
def splitArguments (environment : Environment) : Nat → List String → Except String (List String)
  | 0, args => .ok args
  | _, [] => .ok []
  | fuel + 1, w :: args =>
    let split (text : String) (rest : List String) : Except String (List String) := do
      let words ← splitText environment (text.length + 1) .none none text.toList
      return words ++ rest
    match w.toList with
    | '-' :: 'S' :: cs => if cs.isEmpty then
        match args with
        | text :: rest => split text rest
        | [] => .ok [w]
      else split (String.ofList cs) args
    | '-' :: 'v' :: 'S' :: cs => split (String.ofList cs) args
    | '-' :: '-' :: 's' :: 'p' :: 'l' :: 'i' :: 't' :: '-' :: 's' :: 't' :: 'r' :: 'i' :: 'n' :: 'g' ::
        '=' :: cs => split (String.ofList cs) args
    | '-' :: _ :: _ =>
      if ["-u", "-C", "--unset", "--chdir"].contains w then
        match args with
        | value :: args => do return w :: value :: (← splitArguments environment fuel args)
        | [] => .ok [w]
      else do return w :: (← splitArguments environment fuel args)
    | _ => .ok (w :: args)

/-- Goes on as a program in another environment, or writes the environment. -/
def env : Tool := fun exec call => do
  match splitArguments call.environment (call.arguments.length + 1) call.arguments with
  | .error complaint =>
    complain call complaint
    return 125
  | .ok arguments =>
    withOptions { call with arguments } {
        letters := "iu:0C:v"
        names := [("ignore-environment", .nothing, 'i'), ("unset", .required, 'u'),
          ("null", .nothing, '0'), ("chdir", .required, 'C'), ("debug", .nothing, 'v')]
        inFront := true } 125
      fun given => do
        let dash := given.operands.head? == some "-"
        let operands := if dash then given.operands.drop 1 else given.operands
        let before : Environment := if dash || given.has 'i' then [] else call.environment
        let kept := (given.values 'u').foldl (fun e name => Environment.without name e) before
        let assigned := (operands.takeWhile isAssignment).map splitAssignment
        let environment := assigned.foldl (fun e v => Environment.insert v.1 v.2 e) kept
        match operands.dropWhile isAssignment with
        | [] =>
          let ending := if given.has '0' then "\x00" else "\n"
          say call (String.join (environment.map fun v => v.1 ++ "=" ++ v.2 ++ ending)) 0
        | name :: arguments =>
          match given.value? 'C' with
          | some dir =>
            match ← Work.change fun fs => fs.changeDir (pathOf dir) with
            | .ok () => pure ()
            | .error fault =>
              complain call ("cannot change directory to " ++ Quoted.shell dir ++ ": " ++ fault.summary)
              return 125
          | none => pure ()
          let searchPath := searchPathOf environment
          let fault ← Exec.search exec searchPath (name :: arguments) environment
          complain call (Quoted.curved name ++ ": " ++ fault.summary)
          let isBlank (c : Char) : Bool := [' ', '\t', '\n', '\r', '\x0b', '\x0c'].contains c
          if fault == .notFound && name.toList.any isBlank then
            complain call "use -[v]S to pass options in shebang lines"
          return launchStatus fault

/-! ## Children -/

/-- Starts a program as a child, and gives its number. -/
def start (exec : Exec) (call : Call) (complaint : String → String) (arguments : List String) :
    Work Nat :=
  let work := become exec call (searchPathOf call.environment) call.environment complaint arguments
  Work.fork work.toTask

/-- Waits for a child to end. -/
def awaitChild (child : Nat) : Work Termination := do
  match ← Work.ask (.wait (some child) false) with
  | .ended _ how => return how
  | _ => return .exited 0

/-- What keeps a program from being started, if anything does. -/
def startFault? (call : Call) (name : String) (fs : FileSystem) : Option FileFault :=
  let paths := if name == "" then [] else Exec.paths (searchPathOf call.environment) name
  let faults := paths.map fun path =>
    match Image.load fs path [path] with
    | .ok _ | .error .notRunnable => none
    | .error fault => some fault
  if faults.any Option.isNone then none
  else some ((faults.reduceOption.find? fun fault => fault == .permissionDenied).getD .notFound)

/-! ## Limits of time -/

/-- The status that a program leaves behind for whoever started it. -/
def statusOf : Termination → Nat
  | .exited status => status
  | .killed signal => 128 + signal

/-- Kills the tool itself, as a child was killed. -/
def dieOf (signal : Nat) : Work Nat := do
  let (id, _) ← Work.ask .identity
  Work.ask (.dispose signal .usual)
  discard (Work.ask (.kill id signal))
  return 128 + signal

/-- What a limit of time is kept by. -/
structure Limit where
  signal : Nat
  /-- When a child is killed that does not end by the signal. -/
  killAfter : Option Nat
  keepsStatus : Bool

/-- Starts a child that waits. -/
def startTimer (nanos : Nat) : Work Nat :=
  Work.fork (.call (.renew) fun _ => .call (.pass nanos) fun _ => .finish 0)

/-- Waits until a child ends or time is up, and then sends signals. Gives how the child ended, and
the signal that was sent last. -/
def awaitWithin (child : Nat) (limit : Limit) :
    Nat → Option Nat → Option Nat → Work (Termination × Option Nat)
  | 0, _, sent => return (.exited 0, sent)
  | fuel + 1, timer?, sent => do
    match ← Work.ask (.wait none false) with
    | .ended id how =>
      if id == child then
        match timer? with
        | some timer => discard (Work.ask (.kill timer 9))
        | none => pure ()
        return (how, sent)
      else if some id == timer? then
        let signal := if sent.isSome then 9 else limit.signal
        Work.ask (.killFamily child signal)
        Work.ask (.killFamily child 18)
        match limit.killAfter, sent with
        | some nanos, none => awaitWithin child limit fuel (some (← startTimer nanos)) (some signal)
        | _, _ => awaitWithin child limit fuel none (some signal)
      else awaitWithin child limit fuel timer? sent
    | _ => return (.exited 0, sent)

/-- Starts a program that has to end within a span. -/
def timeout : Tool := fun exec call => do
  let spec : Options := {
    letters := "k:s:fv"
    names := [("kill-after", .required, 'k'), ("signal", .required, 's'), ("foreground", .nothing, 'f'),
      ("preserve-status", .nothing, 'p'), ("verbose", .nothing, 'v')]
    inFront := true }
  withOptions call spec 125 fun given => do
    let badSpan (w : String) : Work Nat :=
      misused call 125 ("invalid time interval " ++ Quoted.curved w)
    match given.operands with
    | [] | [_] =>
      hint call
      return 125
    | span :: arguments =>
      match spanOf? span, (given.value? 'k').map fun w => (w, spanOf? w) with
      | none, _ => badSpan span
      | _, some (w, none) => badSpan w
      | some nanos, kill? =>
        let word := (given.value? 's').getD "TERM"
        let plain := if word.toList.take 3 == "SIG".toList then String.ofList (word.toList.drop 3) else word
        match Signal.ofWord? false plain with
        | none => misused call 125 (Quoted.curved word ++ ": invalid signal")
        | some signal =>
          let limit : Limit := ⟨signal, kill?.bind Prod.snd, given.has 'p'⟩
          let child ← start exec call
            (fun name => "failed to run command " ++ Quoted.curved name) arguments
          let timer? ← if nanos == 0 then pure none else some <$> startTimer nanos
          let (how, sent) ← awaitWithin child limit 10 timer? none
          match sent, how with
          | none, .killed signal => dieOf signal
          | none, .exited status => return status
          | some 9, .killed 9 => dieOf 9
          | some _, how => return if limit.keepsStatus then statusOf how else 124

end LintRoster.Machine.Tool
