import LintRoster.Machine.Tool.Sed.Editing
import LintRoster.Machine.Tool.Sed.Reading

/-!
# The tool that edits lines

A tool that carries out a script for each line of its inputs.
-/

namespace LintRoster.Machine.Tool

namespace Sed

/-- The options of the tool. -/
def options : Options where
  letters := "bne:f:i::l:rEsuz"
  names :=
    [("binary", .nothing, 'b'), ("regexp-extended", .nothing, 'r'), ("debug", .nothing, 'D'),
      ("in-place", .optional, 'i'), ("expression", .required, 'e'), ("file", .required, 'f'),
      ("line-length", .required, 'l'), ("null-data", .nothing, 'z'), ("zero-terminated", .nothing, 'z'),
      ("quiet", .nothing, 'n'), ("posix", .nothing, 'p'), ("silent", .nothing, 'n'),
      ("sandbox", .nothing, 'S'), ("separate", .nothing, 's'), ("unbuffered", .nothing, 'u'),
      ("follow-symlinks", .nothing, 'F')]

/-- The line about the usage of the tool. -/
def usage : String :=
  "Usage: sed [OPTION]... \x7bscript-only-if-no-other-script\x7d [input-file]...\n"

/-- The parts of a script that options give, where `count` of them were expressions. -/
def partsOf (call : Call) : List (Char × String) → Nat → Work (Option (List (Origin × String)))
  | [], _ => return some []
  | ('e', text) :: rest, count => do
    let more ← partsOf call rest (count + 1)
    return more.map ((.expression (count + 1), text) :: ·)
  | ('f', name) :: rest, count => do
    match ← slurp name with
    | .error fault =>
      complain call ("couldn't open file " ++ name ++ ": " ++ fault.summary)
      return none
    | .ok bytes =>
      let more ← partsOf call rest count
      return more.map ((.file name, Bytes.ofBytes bytes) :: ·)
  | _ :: rest, count => partsOf call rest count

/-- Opens files for writing, after some that are open. -/
def openTargets (call : Call) :
    List String → List (String × Nat) → Work (Option (List (String × Nat)))
  | [], files => return some files
  | name :: names, files => do
    match ← Work.ask (.open (pathOf name) .write) with
    | .error fault =>
      complain call ("couldn't open file " ++ name ++ ": " ++ fault.summary)
      return none
    | .ok stream => openTargets call names ((name, stream) :: files)

/-- Carries out the parts of a script. -/
def carryOut (exec : Exec) (call : Call) (given : Given) (parts : List (Origin × String))
    (operands : List String) : Work Nat := do
  match readParts (given.has 'E' || given.has 'r') parts with
  | .error fault =>
    complain call fault.text
    return fault.status
  | .ok script =>
    match ← openTargets call script.written [] with
    | none => return 4
    | some files =>
      let inPlace := given.value? 'i'
      if inPlace.isSome && operands.isEmpty then
        complain call "no input files"
        return 4
      let width := ((given.value? 'l').map fun w => w.toNat?.getD 0).getD 70
      let manner : Manner := {
        exec, call, script, isQuiet := given.has 'n' || script.isQuiet
        isSeparate := given.has 's' || inPlace.isSome, inPlace
        delimiter := if given.has 'z' then 0 else 10, width }
      edit manner files (inputs operands)

end Sed

/-- Edits lines by a script. -/
def sed : Tool := fun exec call => do
  let misused (complaint : String) : Work Nat := do
    if complaint != "" then complain call complaint
    discard (writeTo 2 Sed.usage)
    return 1
  match readFrom Sed.options (call.arguments.length + 1) call.arguments with
  | .error complaint => misused complaint
  | .ok given =>
    match ← Sed.partsOf call given.options 0 with
    | none => return 4
    | some [] =>
      match given.operands with
      | [] => misused ""
      | text :: operands => Sed.carryOut exec call given [(.expression 1, text)] operands
    | some parts => Sed.carryOut exec call given parts given.operands

end LintRoster.Machine.Tool
