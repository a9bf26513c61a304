import LintRoster.Machine.Exec
import LintRoster.Machine.Quoted

/-!
# Tools

A tool is a program of the machine. This module holds what tools have in common: how they read their
options, write, and complain. A tool complains by the name that it was called by.
-/

namespace LintRoster.Machine

/-- What a program does, and the status that it ends with. -/
abbrev Tool :=
  Exec → Call → Work Nat

namespace Tool

/-! ## Writing -/

/-- Writes a text to a stream. -/
def writeTo (stream : Nat) (text : String) : Work (Except FileFault Unit) :=
  Work.ask (.write stream (Bytes.toBytes text))

/-- Complains. -/
def complain (call : Call) (message : String) : Work Unit := do
  discard (writeTo 2 (call.name ++ ": " ++ message ++ "\n"))

/-- Writes bytes to the output, and gives the status of a tool that was able to do so. -/
def put (call : Call) (bytes : List UInt8) (status : Nat) : Work Nat := do
  if bytes.isEmpty then return status
  match ← Work.ask (.write 1 bytes) with
  | .ok () => return status
  | .error fault =>
    complain call ("write error: " ++ fault.summary)
    return 1

/-- Writes a text to the output, and gives the status of a tool that was able to do so. -/
def say (call : Call) (text : String) (status : Nat) : Work Nat :=
  put call (Bytes.toBytes text) status

/-! ## Options -/

/-- Whether an option takes a value. -/
inductive Taking where
  | nothing
  | required
  | optional
deriving DecidableEq, Repr

/-- The options of a tool: letters, with a colon behind those that take a value, and names for some of
them. Options may be written behind operands unless `inFront` is set. -/
structure Options where
  letters : String
  names : List (String × Taking × Char) := []
  inFront : Bool := false
  /-- What is written about the usage of the tool after a complaint about its options. -/
  usage : String := ""

/-- What options were given, by their letters, and the operands. -/
structure Given where
  options : List (Char × String)
  operands : List String

namespace Given

/-- Whether an option was given. -/
def has (g : Given) (c : Char) : Bool :=
  g.options.any fun o => o.1 == c

/-- The value that was given last for an option. -/
def value? (g : Given) (c : Char) : Option String :=
  (g.options.reverse.find? fun o => o.1 == c).map Prod.snd

/-- All values that were given for an option. -/
def values (g : Given) (c : Char) : List String :=
  (g.options.filter fun o => o.1 == c).map Prod.snd

/-- The one of some options that was given last. -/
def last? (g : Given) (cs : List Char) : Option Char :=
  (g.options.reverse.find? fun o => cs.contains o.1).map Prod.fst

end Given

/-- How a letter is known: whether it takes a value. -/
def takingOf? (letters : List Char) (c : Char) : Option Taking :=
  match letters with
  | [] => none
  | d :: ':' :: ':' :: rest => if d == c then some .optional else takingOf? rest c
  | d :: ':' :: rest => if d == c then some .required else takingOf? rest c
  | d :: rest => if d == c then some .nothing else takingOf? rest c

/-- Reads the letters of one argument. -/
def readLetters (spec : Options) :
    List Char → List String → Except String (List (Char × String) × List String)
  | [], args => .ok ([], args)
  | c :: cs, args =>
    match takingOf? spec.letters.toList c with
    | none => .error ("invalid option -- '" ++ String.singleton c ++ "'")
    | some .nothing => do
      let (more, args) ← readLetters spec cs args
      return ((c, "") :: more, args)
    | some .optional => .ok ([(c, String.ofList cs)], args)
    | some .required =>
      match cs, args with
      | [], [] => .error ("option requires an argument -- '" ++ String.singleton c ++ "'")
      | [], value :: args => .ok ([(c, value)], args)
      | cs, args => .ok ([(c, String.ofList cs)], args)

/-- The names of options that a written one may stand for. -/
def namesFor (spec : Options) (name : String) : List (String × Taking × Char) :=
  match spec.names.find? fun entry => entry.1 == name with
  | some entry => [entry]
  | none => spec.names.filter fun entry => name.toList.isPrefixOf entry.1.toList

/-- Reads an option that is written by its name, after its two dashes. -/
def readName (spec : Options) (cs : List Char) (args : List String) :
    Except String ((Char × String) × List String) :=
  let name := String.ofList (cs.takeWhile (· != '='))
  let value? :=
    match cs.dropWhile (· != '=') with
    | [] => none
    | _ :: value => some (String.ofList value)
  let written := "'--" ++ name ++ "'"
  match namesFor spec name with
  | [] => .error ("unrecognized option '--" ++ String.ofList cs ++ "'")
  | (full, taking, c) :: others =>
    if others.any fun entry => entry.2.2 != c then
      let all := ((full, taking, c) :: others).map fun entry => " '--" ++ entry.1 ++ "'"
      .error ("option '--" ++ String.ofList cs ++ "' is ambiguous; possibilities:" ++ String.join all)
    else
      match taking, value?, args with
      | .nothing, some _, _ => .error ("option '--" ++ full ++ "' doesn't allow an argument")
      | .nothing, none, args => .ok ((c, ""), args)
      | .optional, value?, args => .ok ((c, value?.getD ""), args)
      | .required, some value, args => .ok ((c, value), args)
      | .required, none, value :: args => .ok ((c, value), args)
      | .required, none, [] =>
        .error ("option " ++ (if full == name then written else "'--" ++ full ++ "'") ++
          " requires an argument")

/-- Reads options and operands. -/
def readFrom (spec : Options) : Nat → List String → Except String Given
  | 0, args => .ok ⟨[], args⟩
  | _, [] => .ok ⟨[], []⟩
  | fuel + 1, arg :: args =>
    match arg.toList with
    | ['-', '-'] => .ok ⟨[], args⟩
    | '-' :: '-' :: cs => do
      let (option, args) ← readName spec cs args
      let more ← readFrom spec fuel args
      return { more with options := option :: more.options }
    | '-' :: c :: cs => do
      let (options, args) ← readLetters spec (c :: cs) args
      let more ← readFrom spec fuel args
      return { more with options := options ++ more.options }
    | _ =>
      if spec.inFront then .ok ⟨[], arg :: args⟩
      else do
        let more ← readFrom spec fuel args
        return { more with operands := arg :: more.operands }

/-- Tells how to find out more about a tool. -/
def hint (call : Call) : Work Unit := do
  discard (writeTo 2 ("Try '" ++ call.name ++ " --help' for more information.\n"))

/-- Complains about how a tool was called. -/
def misused (call : Call) (status : Nat) (message : String) : Work Nat := do
  complain call message
  hint call
  return status

/-- Does something with the options of a tool. Options that it does not know give a status. -/
def withOptions (call : Call) (spec : Options) (status : Nat) (act : Given → Work Nat) : Work Nat :=
  match readFrom spec (call.arguments.length + 1) call.arguments with
  | .ok given => act given
  | .error message => do
    complain call message
    discard (writeTo 2 spec.usage)
    hint call
    return status

/-! ## Statuses -/

/-- Does something for each of some values, and gives the greatest status. -/
def forEach {α : Type} (act : α → Work Nat) : List α → Work Nat
  | [] => return 0
  | a :: as => do
    let status ← act a
    return max status (← forEach act as)

/-- Does something with at least one operand. -/
def withOperands (call : Call) (operands : List String) (act : Work Nat) : Work Nat :=
  if operands.isEmpty then misused call 1 "missing operand" else act

end Tool

end LintRoster.Machine
