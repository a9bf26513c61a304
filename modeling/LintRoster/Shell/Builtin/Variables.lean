import LintRoster.Shell.Builtin
import LintRoster.Shell.Field
import LintRoster.Shell.Flag

/-!
# Commands on variables and arguments

The commands that export, fix, unset and list variables, that set and shift the arguments of a shell,
and that read values from the input or from options.
-/

namespace LintRoster.Shell.Builtin

open Machine (Work)

/-! ## Properties of variables -/

/-- The names of the variables of a kind, in order. -/
def namesOf (s : State) (kind : Variable → Bool) : List String :=
  ((s.bindings.toList.filter fun entry => kind entry.2).map Prod.fst).mergeSort fun a b => a ≤ b

/-- A line for each variable of a kind. -/
def listVariables (front : String) (kind : Variable → Bool) : Sh Unit := do
  let s ← get
  for name in namesOf s kind do
    let text :=
      match s.value? name with
      | some value => assignmentText name value
      | none => name
    Sh.say (front ++ text ++ "\n")

/-- Splits an argument at its first equals sign. -/
def splitValue (arg : String) : String × Option String :=
  let cs := arg.toList
  let name := String.ofList (cs.takeWhile (· != '='))
  match cs.dropWhile (· != '=') with
  | [] => (name, none)
  | _ :: value => (name, some (String.ofList value))

/-- Gives variables a property, and values where they are given. -/
def mark (give : String → Sh Unit) (args : List String) : Sh Unit := do
  for arg in args do
    let (name, value) := splitValue arg
    Sh.checkName name
    match value with
    | some v => Sh.assign name v
    | none => pure ()
    give name

/-- Makes programs see variables. -/
def exportNames : Builtin := fun args => do
  let (options, names) ← options "p" args
  if options.isEmpty && !names.isEmpty then mark Sh.exportName names
  else listVariables "export " Variable.isExported
  return 0

/-- Makes variables fixed. -/
def fixNames : Builtin := fun args => do
  let (options, names) ← options "p" args
  if options.isEmpty && !names.isEmpty then mark Sh.fixName names
  else listVariables "readonly " Variable.isFixed
  return 0

/-- Makes a variable local to the present function. Without a value it keeps the one that it has. -/
def makeLocal (arg : String) : Sh Unit := do
  if arg == "-" then Sh.keepOptions
  else
    let (name, value) := splitValue arg
    Sh.checkName name
    Sh.keepLocal name
    match value with
    | some v => Sh.assign name v
    | none => pure ()

/-- Makes variables local to the present function. -/
def localNames : Builtin := fun args => do
  if (← get).locals.isEmpty then Sh.fault "not in a function"
  args.forM makeLocal
  return 0

/-- Takes variables or functions away. -/
def unsetNames : Builtin := fun args => do
  let (options, names) ← options "vf" args
  let functions := (options.getLast?.map Prod.fst) == some 'f'
  for name in names do
    if functions then
      modify fun s => { s with functions := s.functions.filter fun f => f.1 != name }
    else
      Sh.checkName name
      Sh.unset name
  return 0

/-! ## Arguments and options of the shell -/

/-- Gives the shell arguments. -/
def setArguments (arguments : List String) : Sh Unit :=
  modify fun s => { s with arguments, optionIndex := 1, optionOffset := none }

/-- Sets options and arguments, or lists all variables. -/
def setFlags : Builtin := fun args => do
  if args.isEmpty then listVariables "" fun v => v.value.isSome
  else
    match ← Flag.take args with
    | some arguments => setArguments arguments
    | none => pure ()
  return 0

/-- Drops the first arguments. -/
def shift : Builtin := fun args => do
  let n ←
    match args with
    | [] => pure 1
    | arg :: _ => Sh.numberOf arg
  let arguments := (← get).arguments
  if n > arguments.length then Sh.fault "can't shift that many"
  setArguments (arguments.drop n)
  return 0

/-! ## Options in arguments -/

/-- Sets a variable without the consequences that this has otherwise. -/
def assignQuietly (name value : String) : Sh Unit := do
  Sh.checkFixed name
  modify fun s =>
    let old := (s.binding? name).getD default
    s.restore name (some { old with value := some value })

/-- Where options are looked for next: the number of the argument, and how far its letters were
read. -/
structure OptionPlace where
  index : Nat
  offset : Option Nat

/-- The letters of an option that were not read yet, and the place after the argument that they are
in. There are none at the end of the options. -/
def nextLetters (words : List String) (p : OptionPlace) : Option (List Char) × Nat :=
  let current := p.offset.bind fun n => (words[p.index - 2]?).map fun w => w.toList.drop n
  match if p.index ≤ 1 then none else current with
  | some (c :: cs) => (some (c :: cs), p.index)
  | _ =>
    match words[p.index - 1]? with
    | none => (none, p.index)
    | some w =>
      match w.toList with
      | ['-', '-'] => (none, p.index + 1)
      | '-' :: c :: cs => (some (c :: cs), p.index + 1)
      | _ => (none, p.index)

/-- Notes what came of looking for an option. -/
def noteOption (name : String) (found : Char) (p : OptionPlace) : Sh Unit := do
  assignQuietly "OPTIND" (toString p.index)
  Sh.assignNamed name (String.singleton found)
  modify fun s => { s with optionIndex := p.index, optionOffset := p.offset }

/-- Finds the next option among words. -/
def nextOption (spec : List Char) (name : String) (words : List String) : Sh Nat := do
  let silent := spec.head? == some ':'
  let s ← get
  let (letters, index) := nextLetters words ⟨s.optionIndex, s.optionOffset⟩
  let offsetOf (rest : List Char) : Option Nat :=
    (words[index - 2]?).map fun w => w.length - rest.length
  match letters with
  | none | some [] =>
    noteOption name '?' ⟨index, none⟩
    return 1
  | some (c :: rest) =>
    match takesValue? spec c with
    | none =>
      if silent then Sh.assign "OPTARG" (String.singleton c)
      else
        Sh.write 2 ("Illegal option -" ++ String.singleton c ++ "\n")
        Sh.unset "OPTARG"
      noteOption name '?' ⟨index, offsetOf rest⟩
      return 0
    | some false =>
      Sh.assign "OPTARG" ""
      noteOption name c ⟨index, offsetOf rest⟩
      return 0
    | some true =>
      match rest, words[index - 1]? with
      | [], none =>
        if silent then
          Sh.assign "OPTARG" (String.singleton c)
          noteOption name ':' ⟨index, none⟩
        else
          Sh.write 2 ("No arg for -" ++ String.singleton c ++ " option\n")
          Sh.unset "OPTARG"
          noteOption name '?' ⟨index, none⟩
        return 0
      | [], some value =>
        Sh.assign "OPTARG" value
        noteOption name c ⟨index + 1, none⟩
        return 0
      | rest, _ =>
        Sh.assign "OPTARG" (String.ofList rest)
        noteOption name c ⟨index, none⟩
        return 0

/-- Finds the next option among the arguments of the shell, or those of the command. -/
def getopts : Builtin := fun args => do
  match ← operands args with
  | spec :: name :: words =>
    let s ← get
    let words := if words.isEmpty then s.arguments else words
    if s.optionIndex > words.length + 1 then
      modify fun s => { s with optionIndex := 1, optionOffset := none }
    nextOption spec.toList name words
  | _ => Sh.fault "Usage: getopts optstring var [arg...]"

/-! ## Reading lines -/

/-- A line that is being read: the stretches before the present one, the atoms of the present one,
last first, and whether a backslash was the last character. -/
structure LineDraft where
  stretches : List Stretch
  current : List Atom
  isEscaped : Bool

namespace LineDraft

/-- Ends the present stretch. -/
def close (d : LineDraft) : List Stretch :=
  d.stretches ++ [⟨d.current.reverse, .atSeparators⟩]

/-- Adds a character. Backslashes protect what follows unless `raw` is set. -/
def add (raw : Bool) (d : LineDraft) (c : Char) : LineDraft :=
  if c == '\x00' then d
  else if d.isEscaped then
    { stretches := d.close ++ [⟨[Atom.ofChar true c], .never⟩], current := [], isEscaped := false }
  else if !raw && c == '\\' then { d with isEscaped := true }
  else { d with current := Atom.ofChar false c :: d.current }

end LineDraft

/-- Reads a line, which a backslash at its end joins with the next one. Gives the status too. -/
def readLine (raw : Bool) : Nat → LineDraft → Sh (List Stretch × Nat)
  | 0, d => return (d.close, 1)
  | fuel + 1, d => do
    let bytes := (← Sh.ask (.readLine 0)).toOption.getD []
    let cs := bytes.map Bytes.charOf
    let isWhole := cs.getLast? == some '\n'
    let d := (if isWhole then cs.dropLast else cs).foldl (LineDraft.add raw) d
    if !isWhole then return (d.close, 1)
    else if d.isEscaped then
      readLine raw fuel { stretches := d.close, current := [], isEscaped := false }
    else return (d.close, 0)

/-- Gives variables the fields of a line. -/
def assignFields : List String → List (List Atom) → Sh Unit
  | [], _ => pure ()
  | name :: names, fields => do
    Sh.assignNamed name (Atom.text (fields.headD []))
    assignFields names (fields.drop 1)

/-- Reads a line into variables. -/
def read : Builtin := fun args => do
  let (options, names) ← options "p:r" args
  if names.isEmpty then Sh.fault "arg count"
  let raw := options.any fun o => o.1 == 'r'
  let (line, status) ← readLine raw Work.rounds ⟨[], [], false⟩
  let separators := (← get).separators
  assignFields names (splitFields separators (some names.length) line)
  return status

end LintRoster.Shell.Builtin
