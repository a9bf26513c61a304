import LintRoster.Machine.Tool.Lines

/-!
# Files in blocks

Tools that copy blocks of bytes, and that cut files or fill them up to a size.
-/

namespace LintRoster.Machine.Tool

/-- Replaces the content of a file, or makes a new one. -/
def replaceContent (path : String) (bytes : List UInt8) (fs : FileSystem) :
    Except FileFault FileSystem :=
  match fs.resolve (pathOf path) with
  | .error fault => .error fault
  | .ok (.free parent name) => .ok (fs.put (parent ++ [name]) (.file bytes false))
  | .ok (.node _ (.dir _)) => .error .isDirectory
  | .ok (.node place (.file _ executable)) => .ok (fs.put place (.file bytes executable))
  | .ok (.node _ (.link _)) => .error .tooManyLinks

/-- Bytes cut or filled up with zeros to a size. -/
def fitted (size : Nat) (bytes : List UInt8) : List UInt8 :=
  bytes.take size ++ List.replicate (size - bytes.length) 0

/-! ## Sizes of files -/

/-- The size that a text asks for, for a file of some size. -/
def sizeFor? (size : Nat) (text : String) : Option Nat :=
  match text.toList with
  | '+' :: cs => (amountOf? (String.ofList cs)).map (size + ·)
  | '-' :: cs => (amountOf? (String.ofList cs)).map (size - ·)
  | '<' :: cs => (amountOf? (String.ofList cs)).map (min size)
  | '>' :: cs => (amountOf? (String.ofList cs)).map (max size)
  | _ => amountOf? text

/-- Cuts files or fills them up to a size. -/
def truncate : Tool := fun _ call =>
  withOptions call {
      letters := "cor:s:"
      names := [("no-create", .nothing, 'c'), ("reference", .required, 'r'), ("size", .required, 's')] } 1
    fun given => do
      let change (size : Nat → Nat) (path : String) : Work Nat := do
        let exists? ← Work.look fun fs => fs.pathExists (pathOf path)
        if !exists? && given.has 'c' then return 0
        let result ← Work.change fun fs =>
          let old := (fs.readBytes (pathOf path)).toOption.getD []
          replaceContent path (fitted (size old.length) old) fs
        match result with
        | .ok () => return 0
        | .error fault =>
          complain call ("cannot open " ++ Quoted.shell path ++ " for writing: " ++ fault.summary)
          return 1
      let changeAll (size : Nat → Nat) : Work Nat :=
        if given.operands.isEmpty then misused call 1 "missing file operand"
        else forEach (change size) given.operands
      match given.value? 's', given.value? 'r' with
      | none, none =>
        misused call 1 ("you must specify either " ++ Quoted.curved "--size" ++ " or " ++
          Quoted.curved "--reference")
      | some text, _ =>
        if (sizeFor? 0 text).isNone then
          complain call ("Invalid number: " ++ Quoted.curved text)
          return 1
        else changeAll fun size => (sizeFor? size text).getD 0
      | none, some path =>
        match ← Work.look fun fs => fs.readBytes (pathOf path) with
        | .ok bytes => changeAll fun _ => bytes.length
        | .error fault =>
          complain call ("cannot stat " ++ Quoted.shell path ++ ": " ++ fault.summary)
          return 1

/-! ## Copying blocks -/

namespace Block

/-- How blocks are copied. -/
structure Plan where
  source : Option String
  target : Option String
  readSize : Nat
  writeSize : Nat
  count : Option Nat
  skip : Nat
  seek : Nat
  conversions : List String
  status : String

/-- What became of a word: a plan, or a complaint, which may be one about the usage. -/
abbrev Planned :=
  Except (String × Bool) Plan

/-- A plan with what a word adds to it. -/
def Plan.add (word : String) (p : Plan) : Planned :=
  let name := String.ofList (word.toList.takeWhile (· != '='))
  let value := String.ofList ((word.toList.dropWhile (· != '=')).drop 1)
  let unknown : Planned := .error ("unrecognized operand " ++ Quoted.shell word, true)
  let amount (isSize : Bool) (use : Nat → Plan) : Planned :=
    match (amountOf? value).filter fun n => !isSize || 0 < n with
    | some n => .ok (use n)
    | none => .error ("invalid number: " ++ Quoted.shell value, false)
  if !word.contains '=' then unknown
  else
    match name with
    | "if" => .ok { p with source := some value }
    | "of" => .ok { p with target := some value }
    | "bs" => amount true fun n => { p with readSize := n, writeSize := n }
    | "ibs" => amount true fun n => { p with readSize := n }
    | "obs" => amount true fun n => { p with writeSize := n }
    | "count" => amount false fun n => { p with count := some n }
    | "skip" | "iseek" => amount false fun n => { p with skip := n }
    | "seek" | "oseek" => amount false fun n => { p with seek := n }
    | "conv" => .ok { p with conversions := p.conversions ++ value.splitOn "," }
    | "status" =>
      if ["none", "noxfer", "progress"].contains value then .ok { p with status := value }
      else .error ("invalid status level: " ++ Quoted.curved value, true)
    | "iflag" | "oflag" | "cbs" => .ok p
    | _ => unknown

/-- Reads blocks, after some that come last first. -/
def readBlocks (stream size : Nat) :
    Nat → Option Nat → List (List UInt8) → Work (Except FileFault (List (List UInt8)))
  | 0, _, done => return .ok done.reverse
  | _, some 0, done => return .ok done.reverse
  | fuel + 1, count, done => do
    match ← Work.ask (.read stream size) with
    | .error fault => return .error fault
    | .ok [] => return .ok done.reverse
    | .ok bytes => readBlocks stream size fuel (count.map (· - 1)) (bytes :: done)

/-- Bytes after conversions. -/
def Plan.converted (p : Plan) (bytes : List UInt8) : List UInt8 :=
  if p.conversions.contains "ucase" then bytes.map upperByte
  else if p.conversions.contains "lcase" then
    bytes.map fun b => if 65 ≤ b && b ≤ 90 then b + 32 else b
  else bytes

/-- A number of whole blocks and of others. -/
def tally (size : Nat) (lengths : List Nat) : String :=
  let whole := (lengths.filter (· == size)).length
  toString whole ++ "+" ++ toString (lengths.length - whole)

/-- The lengths of the blocks that bytes are written in. -/
def Plan.writtenLengths (p : Plan) (lengths : List Nat) : List Nat :=
  if p.readSize == p.writeSize then lengths
  else
    let total := lengths.foldl Nat.add 0
    let rest := total % p.writeSize
    List.replicate (total / p.writeSize) p.writeSize ++ (if rest == 0 then [] else [rest])

/-- What is told about a copy. -/
def Plan.report (p : Plan) (lengths : List Nat) : String :=
  let total := lengths.foldl Nat.add 0
  let counts := tally p.readSize lengths ++ " records in\n" ++
    tally p.writeSize (p.writtenLengths lengths) ++ " records out\n"
  let unit := if total == 1 then " byte" else " bytes"
  match p.status with
  | "none" => ""
  | "noxfer" => counts
  | _ => counts ++ toString total ++ unit ++ " copied, 1e-05 s, 0.0 kB/s\n"

/-- The content of a target after bytes were written to it. -/
def Plan.content (p : Plan) (bytes old : List UInt8) : List UInt8 :=
  let start := p.seek * p.writeSize
  let rest := if p.conversions.contains "notrunc" then old.drop (start + bytes.length) else []
  fitted start old ++ bytes ++ rest

end Block

/-- Copies blocks. -/
def dd : Tool := fun _ call => do
  let start : Block.Plan := ⟨none, none, 512, 512, none, 0, 0, [], ""⟩
  match call.arguments.foldlM (fun (p : Block.Plan) word => p.add word) start with
  | .error (complaint, true) => misused call 1 complaint
  | .error (complaint, false) =>
    complain call complaint
    return 1
  | .ok p =>
    let unopened (path : String) (fault : FileFault) : Work Nat := do
      complain call ("failed to open " ++ Quoted.shell path ++ ": " ++ fault.summary)
      return 1
    match ← (p.source.map fun path => openInput path).getD (pure (.ok 0)) with
    | .error fault => unopened (p.source.getD "") fault
    | .ok stream =>
      let made : Except FileFault Unit ←
        match p.target with
        | none => pure (.ok ())
        | some path =>
          match ← Work.ask (.open (pathOf path) .append) with
          | .error fault => pure (.error fault)
          | .ok target =>
            Work.ask (.close target)
            pure (.ok ())
      match made with
      | .error fault => unopened (p.target.getD "") fault
      | .ok () =>
        discard (Block.readBlocks stream p.readSize Work.rounds (some p.skip) [])
        let result ← Block.readBlocks stream p.readSize Work.rounds p.count []
        let blocks := result.toOption.getD []
        let bytes := p.converted blocks.flatten
        let status ←
          match p.target with
          | none => put call bytes 0
          | some path => do
            let isFile ← Work.look fun fs => (fs.stat (pathOf path)).toOption.any (·.2.isFile)
            if isFile then
              discard (Work.change fun fs =>
                let old := (fs.readBytes (pathOf path)).toOption.getD []
                replaceContent path (p.content bytes old) fs)
              pure 0
            else
              match ← Work.ask (.open (pathOf path) .write) with
              | .error _ => pure 1
              | .ok target =>
                let written ← Work.ask (.write target bytes)
                Work.ask (.close target)
                match written with
                | .ok () => pure 0
                | .error fault =>
                  complain call ("error writing " ++ Quoted.shell path ++ ": " ++ fault.summary)
                  pure 1
        let failed ←
          match result with
          | .ok _ => pure 0
          | .error fault =>
            complain call ("error reading " ++ Quoted.shell (p.source.getD "standard input") ++ ": " ++
              fault.summary)
            pure 1
        discard (writeTo 2 (p.report (blocks.map List.length)))
        return max status failed

end LintRoster.Machine.Tool
