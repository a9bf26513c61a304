import LintRoster.Shell.Lookup
import LintRoster.Shell.Rows

/-!
# Commands on names

The commands that give names to texts, and that tell what a name stands for.
-/

namespace LintRoster.Shell.Builtin

/-! ## Names of texts -/

/-- The line that lists an alias. -/
def aliasLine (name value : String) : String :=
  assignmentText name value ++ "\n"

/-- The text that a name stands for. -/
def alias? (s : State) (name : String) : Option String :=
  (s.aliases.find? fun a => a.1 == name).map Prod.snd

/-- Splits an argument at an equals sign, which may not be the first character. -/
def splitAlias (arg : String) : String × Option String :=
  let cs := arg.toList
  let name := cs.take 1 ++ (cs.drop 1).takeWhile (· != '=')
  match cs.drop name.length with
  | [] => (arg, none)
  | _ :: value => (String.ofList name, some (String.ofList value))

/-- Gives a text a name, or shows it. Tells whether that was possible. -/
def aliasOne (arg : String) : Sh Bool := do
  let s ← get
  match splitAlias arg with
  | (name, some value) =>
    modify fun s =>
      if (alias? s name).isSome then
        { s with aliases := s.aliases.map fun a => if a.1 == name then (name, value) else a }
      else { s with aliases := s.aliases ++ [(name, value)] }
    return true
  | (name, none) =>
    match alias? s name with
    | some value =>
      Sh.say (aliasLine name value)
      return true
    | none =>
      Sh.write 2 ("alias: " ++ name ++ " not found\n")
      return false

/-- Gives texts names, or lists them. -/
def aliasNames : Builtin := fun args => do
  let s ← get
  if args.isEmpty then
    for name in Rows.names Rows.variableCount (s.aliases.map Prod.fst) do
      Sh.say (aliasLine name ((alias? s name).getD ""))
  let results ← args.mapM aliasOne
  return if results.all id then 0 else 1

/-- Takes names of texts away. -/
def unalias : Builtin := fun args => do
  let (options, names) ← options "a" args
  if !options.isEmpty then
    modify fun s => { s with aliases := [] }
    return 0
  let mut status := 0
  for name in names do
    let s ← get
    if (alias? s name).isSome then
      set { s with aliases := s.aliases.filter fun a => a.1 != name }
    else
      Sh.write 2 ("unalias: " ++ name ++ " not found\n")
      status := 1
  return status

/-! ## Meanings of names -/

/-- What is written about a name: a sentence, or what the name stands for. -/
structure Description where
  sentence : String
  short : String

/-- What is written about the meaning of a name. There is nothing to be said if it has none. -/
def describeMeaning? (name : String) (wasFound : Bool) : Meaning → Option Description
  | .function _ => some ⟨name ++ " is a shell function", name⟩
  | .builtin =>
    let kind := if special.contains name then "special " else ""
    some ⟨name ++ " is a " ++ kind ++ "shell builtin", name⟩
  | .file paths =>
    let path := paths.headD name
    some ⟨name ++ " is" ++ (if wasFound then " a tracked alias for" else "") ++ " " ++ path, path⟩
  | .missing _ => none

/-- What a name means, as far as there is such a file. -/
def existing (name : String) (m : Meaning) : Sh Meaning := do
  if Machine.isPathName name then
    let isThere ← Sh.look fun fs => fs.pathExists (Glob.pathOf name)
    return if isThere then m else .missing .notFound
  else return m

/-- What is written about a name, where another search path may be given. -/
def description? (path : Option String) (name : String) : Sh (Option Description) := do
  let s ← get
  if Token.keywords.contains name then return some ⟨name ++ " is a shell keyword", name⟩
  match alias? s name with
  | some value =>
    return some ⟨name ++ " is an alias for " ++ value, "alias " ++ assignmentText name value⟩
  | none =>
    let wasFound := path.isNone && s.found.contains name
    let m ←
      match path with
      | some path => Sh.meaningAlong path true name
      | none => Sh.meaning true name
    return describeMeaning? name wasFound (← existing name m)

/-- Writes what a name stands for. -/
def describe (path : Option String) (verbose : Bool) (name : String) : Sh Nat := do
  match ← description? path name with
  | some d =>
    Sh.say ((if verbose then d.sentence else d.short) ++ "\n")
    return 0
  | none =>
    if verbose then Sh.say (name ++ ": not found\n")
    return 127

/-- Writes what names stand for. -/
def type : Builtin := fun args => do
  let statuses ← args.mapM (describe none true)
  return if statuses.all (· == 0) then 0 else 127

/-- Lists the files of commands that were found, forgets them, or finds others. -/
def hash : Builtin := fun args => do
  let (options, names) ← options "rv" args
  if options.any fun o => o.1 == 'r' then
    modify fun s => { s with found := [] }
    return 0
  if names.isEmpty then
    for name in Rows.names Rows.fileCount (← get).found do
      match ← Sh.meaning false name with
      | .file (path :: _) => Sh.say (path ++ "\n")
      | _ => pure ()
    return 0
  let mut status := 0
  for name in names do
    match ← Sh.meaning true name with
    | .missing fault =>
      Sh.report (Meaning.missingMessage name fault)
      status := 1
    | _ => pure ()
  return status

end LintRoster.Shell.Builtin
