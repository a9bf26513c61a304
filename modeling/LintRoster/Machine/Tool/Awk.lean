import LintRoster.Machine.Tool.Awk.Evaluation
import LintRoster.Machine.Tool.Awk.Reading

/-!
# The tool that works on records

A tool that carries out a script for each record of its inputs.
-/

namespace LintRoster.Machine.Tool

namespace Awk

/-- What the tool was called with: the separator of fields, the variables that were given values, the
names of files with parts of the script, and the operands. -/
structure Demand where
  separator : Option String
  assignments : List (String × String)
  files : List String
  operands : List String

/-- Reads options up to the first operand. -/
def readOptions : Nat → Demand → List String → Except String Demand
  | 0, d, _ => .ok d
  | fuel + 1, d, args =>
    match args.map String.toList with
    | ['-', '-'] :: _ => .ok { d with operands := args.drop 1 }
    | ['-'] :: _ | [] => .ok { d with operands := args }
    | ('-' :: c :: cs) :: more =>
      if !(['f', 'F', 'v', 'W'].contains c) then .error ("not an option: " ++ args.headD "")
      else
        let value? :=
          match cs, more with
          | [], value :: _ => some (String.ofList value, args.drop 2)
          | [], [] => none
          | cs, _ => some (String.ofList cs, args.drop 1)
        match value?, c with
        | none, c => .error ("option -" ++ String.singleton c ++ " lacks argument")
        | some (value, rest), 'f' => readOptions fuel { d with files := d.files ++ [value] } rest
        | some (value, rest), 'F' => readOptions fuel { d with separator := some value } rest
        | some (value, rest), 'v' =>
          match assignment? value with
          | some a => readOptions fuel { d with assignments := d.assignments ++ [a] } rest
          | none => .error ("improper assignment: -v " ++ value)
        | some (value, rest), _ =>
          if ["posix", "traditional", "interactive"].any fun w => value.toList.isPrefixOf w.toList then
            readOptions fuel d rest
          else .error ("vacuous option: -W \"" ++ value ++ "\"")
    | _ => .ok { d with operands := args }

/-- The text of a script from files, if all of them can be read. -/
def textOfFiles (call : Call) : List String → Work (Option (List UInt8))
  | [] => return some []
  | name :: names => do
    match ← slurp name with
    | .error fault =>
      complain call ("cannot open \"" ++ name ++ "\" (" ++ fault.summary ++ ")")
      return none
    | .ok bytes => return (← textOfFiles call names).map (bytes ++ ·)

/-- The table of the variables of the environment. -/
def environmentTable (e : Environment) : Table :=
  e.foldl (fun t v => t.insert (.text v.1) (.given v.2)) .empty

/-- A runner at the start of a script. -/
def Runner.start (call : Call) (script : Script) (arguments : List String) : Runner :=
  let words := (call.name :: arguments).map Value.given
  let argumentTable :=
    (words.zipIdx).foldl (fun t w => t.insert (.integer (Int.ofNat w.2)) w.1) Table.empty
  let names := "ENVIRON" :: "ARGV" :: script.tables.filter fun s => s != "ENVIRON" && s != "ARGV"
  let tables := (names.drop 2).map fun _ => Table.empty
  let values : List (String × Value) :=
    [("FS", .text " "), ("OFS", .text " "), ("ORS", .text "\n"), ("RS", .text "\n"),
      ("SUBSEP", .text "\x1c"), ("CONVFMT", .text "%.6g"), ("OFMT", .text "%.6g"),
      ("RSTART", .number 0), ("RLENGTH", .number (-1)), ("NR", .number 0), ("FNR", .number 0),
      ("FILENAME", .text ""), ("ARGC", .number (Float.ofNat words.length))]
  { call, script, shared := Std.HashMap.ofList values
    names := Std.HashMap.ofList ((names.zipIdx).map fun n => (n.1, n.2 + 1))
    tables := (.empty :: environmentTable call.environment :: argumentTable :: tables).toArray
    locals := ⟨#[], #[]⟩, depth := 0, record := "", fields := #[], isSplit := true, isJoined := true
    main := none, nextOperand := 1, hadInput := false, inputs := [], outputs := [], written := [], size := 0
    matchers := ∅, active := Array.replicate script.rules.size false, seed := 1 }

/-- Carries out a script with what the tool was called with. -/
def start (exec : Exec) (call : Call) (d : Demand) (script : Script) (arguments : List String) :
    Work Nat := do
  let all : Run Nat := do
    match d.separator with
    | some s => setShared "FS" (.text (unescaped s))
    | none => pure ()
    for (name, value) in d.assignments do assignOperand name value
    carryOut exec
  let (result, _) ← all.run.run (Runner.start call script arguments)
  match result with
  | .ok status => return status
  | .error _ => return 2

/-- The line about the usage of the tool. -/
def usage : String :=
  "Usage: mawk [Options] [Program] [file ...]\n"

end Awk

/-- Works on records by a script. -/
def awk : Tool := fun exec call => do
  match Awk.readOptions (call.arguments.length + 1) ⟨none, [], [], []⟩ call.arguments with
  | .error complaint =>
    complain call complaint
    return 2
  | .ok d =>
    let script? ←
      match d.files, d.operands with
      | [], [] =>
        discard (writeTo 2 Awk.usage)
        return 0
      | [], text :: operands => pure (some (text.toList, operands))
      | files, operands =>
        let bytes? ← Awk.textOfFiles call files
        pure (bytes?.map fun bytes => ((Bytes.ofBytes bytes).toList, operands))
    match script? with
    | none => return 2
    | some (text, operands) =>
      match Awk.readScript text with
      | .ok script => Awk.start exec call d script operands
      | .error fault =>
        let file := String.join ((d.files.take 1).map (· ++ ": "))
        let isUnexpected := "unexpected character".toList.isPrefixOf fault.message.toList
        let line := (if isUnexpected then "" else "line ") ++ toString fault.line ++ ": "
        complain call (file ++ line ++ fault.message)
        if fault.message == "extra '\x7d'" then
          complain call (file ++ line ++ "syntax error at or near end of line")
        return 2

end LintRoster.Machine.Tool
