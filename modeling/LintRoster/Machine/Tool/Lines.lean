import LintRoster.Machine.Device
import LintRoster.Machine.Tool.Copying
import LintRoster.Text.Digit

/-!
# Tools on lines

Tools that write some lines of their inputs, count them, or write them in another order.
-/

namespace LintRoster.Machine.Tool

/-! ## Bytes -/

/-- A byte, a letter in its upper case. -/
def upperByte (b : UInt8) : UInt8 :=
  if 97 ≤ b && b ≤ 122 then b - 32 else b

/-- Whether a byte is a blank. -/
def isBlankByte (b : UInt8) : Bool :=
  b == 32 || b == 9

/-- Compares lists of bytes. -/
def compareBytes : List UInt8 → List UInt8 → Ordering
  | [], [] => .eq
  | [], _ :: _ => .lt
  | _ :: _, [] => .gt
  | a :: as, b :: bs => if a < b then .lt else if b < a then .gt else compareBytes as bs

/-! ## Amounts -/

/-- What the letters behind a number multiply it by. -/
def scales : List (String × Nat) :=
  [("", 1), ("b", 512), ("kB", 1000), ("k", 1024), ("K", 1024), ("KiB", 1024), ("MB", 1000000),
    ("m", 1048576), ("M", 1048576), ("MiB", 1048576), ("GB", 1000000000), ("G", 1073741824)]

/-- The amount that a text means. -/
def amountOf? (text : String) : Option Nat :=
  let cs := text.toList
  let digits := cs.takeWhile Char.isDigit
  match Text.natural? 10 digits, scales.lookup (String.ofList (cs.drop digits.length)) with
  | some n, some scale => some (n * scale)
  | _, _ => none

/-- How much of an input is meant: so much of its beginning or end, or all but so much. -/
structure Extent where
  /-- The sign in front of the amount, if there is one. -/
  sign : Option Char
  amount : Nat
  inBytes : Bool

/-- The extent that a text means. -/
def extentOf? (inBytes : Bool) (text : String) : Option Extent :=
  match text.toList with
  | c :: cs =>
    if c == '-' || c == '+' then (amountOf? (String.ofList cs)).map fun n => ⟨some c, n, inBytes⟩
    else (amountOf? text).map fun n => ⟨none, n, inBytes⟩
  | [] => none

/-- The extent that options ask for, or what is wrong with them. -/
def extentFor (given : Given) : Except String Extent :=
  match given.last? ['n', 'c'] with
  | none => .ok ⟨none, 10, false⟩
  | some c =>
    let text := (given.value? c).getD ""
    match extentOf? (c == 'c') text with
    | some extent => .ok extent
    | none =>
      .error ("invalid number of " ++ (if c == 'c' then "bytes" else "lines") ++ ": " ++
        Quoted.curved text)

/-- An old form of options, a number behind a dash, in the usual form. -/
def usualForm (signs : List Char) (arguments : List String) : List String :=
  match arguments with
  | w :: rest =>
    match w.toList with
    | s :: c :: cs =>
      if signs.contains s && c.isDigit then
        let digits := (c :: cs).takeWhile Char.isDigit
        let letters := (c :: cs).drop digits.length
        let kind := if letters.contains 'c' then "-c" else "-n"
        let sign := if s == '+' then "+" else ""
        let others := letters.filter fun l => ['q', 'v', 'z'].contains l
        if letters.all fun l => ['c', 'l', 'q', 'v', 'z'].contains l then
          (kind ++ sign ++ String.ofList digits) ::
            others.map (fun l => "-" ++ String.singleton l) ++ rest
        else arguments
      else arguments
    | _ => arguments
  | [] => []

/-! ## The beginning -/

/-- The name of an input in a heading. -/
def headingName (name : String) : String :=
  if name == "-" then "standard input" else name

/-- The heading in front of an input. -/
def heading (isFirst : Bool) (name : String) : String :=
  (if isFirst then "" else "\n") ++ "==> " ++ headingName name ++ " <==\n"

/-- Copies a number of bytes from a stream to the output. -/
def copyBytes (call : Call) (stream : Nat) : Nat → Nat → Work (Except FileFault Nat)
  | 0, _ => return .ok 0
  | _, 0 => return .ok 0
  | fuel + 1, count => do
    match ← Work.ask (.read stream (min count 8192)) with
    | .error fault => return .error fault
    | .ok [] => return .ok 0
    | .ok bytes =>
      let status ← put call bytes 0
      if status == 0 then copyBytes call stream fuel (count - bytes.length) else return .ok status

/-- Copies a number of lines from a stream to the output. Of files nothing more is read than that. -/
def copyLines (call : Call) (stream : Nat) (isFile : Bool) :
    Nat → Nat → Work (Except FileFault Nat)
  | 0, _ => return .ok 0
  | _, 0 => return .ok 0
  | fuel + 1, count => do
    let request := if isFile then Request.readLine stream else Request.read stream 8192
    match ← Work.ask request with
    | .error fault => return .error fault
    | .ok [] => return .ok 0
    | .ok bytes =>
      let taken := (linesOf bytes).take count
      let ended := (taken.filter fun line => line.getLast? == some 10).length
      let status ← put call taken.flatten 0
      if status == 0 then copyLines call stream isFile fuel (count - ended) else return .ok status

/-- Copies the beginning of a stream to the output. -/
def copyBeginning (call : Call) (extent : Extent) (stream : Nat) : Work (Except FileFault Nat) := do
  match extent.sign, extent.inBytes with
  | some '-', inBytes =>
    match ← Work.readAll stream with
    | .error fault => return .error fault
    | .ok bytes =>
      let kept :=
        if inBytes then bytes.take (bytes.length - extent.amount)
        else
          let lines := linesOf bytes
          (lines.take (lines.length - extent.amount)).flatten
      return .ok (← put call kept 0)
  | _, true => copyBytes call stream Work.rounds extent.amount
  | _, false =>
    let isFile := (← Work.ask (.place stream)).isSome
    copyLines call stream isFile Work.rounds extent.amount

/-- Writes parts of inputs, with headings if there are several. -/
def overParts (call : Call) (given : Given) (part : Nat → Work (Except FileFault Nat)) :
    Bool → List String → Nat → Work Nat
  | _, [], status => return status
  | isFirst, name :: names, status => do
    let shows :=
      match given.last? ['q', 'v'] with
      | some c => c == 'v'
      | none => given.operands.length > 1
    match ← openInput name with
    | .error fault =>
      complain call ("cannot open " ++ Quoted.shell (headingName name) ++ " for reading: " ++
        fault.summary)
      overParts call given part isFirst names 1
    | .ok stream =>
      if shows then discard (writeTo 1 (heading isFirst name))
      let result ← part stream
      closeInput stream
      match result with
      | .ok written => overParts call given part false names (max status written)
      | .error fault =>
        complain call ("error reading " ++ Quoted.shell (headingName name) ++ ": " ++ fault.summary)
        overParts call given part false names 1

/-- The names of the options of tools that write parts of inputs. -/
def partNames : List (String × Taking × Char) :=
  [("bytes", .required, 'c'), ("lines", .required, 'n'), ("quiet", .nothing, 'q'),
    ("silent", .nothing, 'q'), ("verbose", .nothing, 'v'), ("zero-terminated", .nothing, 'z')]

/-- Writes the beginnings of inputs. -/
def head : Tool := fun _ call => do
  let arguments := usualForm ['-'] call.arguments
  let trailing? :=
    match arguments.headD "" |>.toList with
    | '-' :: c :: cs => if c.isDigit then (cs.dropWhile Char.isDigit).head? else none
    | _ => none
  match trailing? with
  | some c => misused call 1 ("invalid trailing option -- " ++ String.singleton c)
  | none =>
    withOptions { call with arguments } { letters := "c:n:qvz", names := partNames } 1 fun given => do
      match extentFor given with
      | .error complaint =>
        complain call complaint
        return 1
      | .ok extent =>
        overParts call given (copyBeginning call extent) true (inputs given.operands) 0

/-! ## The end -/

/-- The end of some bytes. -/
def endOf (extent : Extent) (bytes : List UInt8) : List UInt8 :=
  let lines := linesOf bytes
  match extent.sign == some '+', extent.inBytes with
  | true, true => bytes.drop (extent.amount - 1)
  | true, false => (lines.drop (extent.amount - 1)).flatten
  | false, true => bytes.drop (bytes.length - extent.amount)
  | false, false => (lines.drop (lines.length - extent.amount)).flatten

/-- Copies the end of a stream to the output. -/
def copyEnd (call : Call) (extent : Extent) (stream : Nat) : Work (Except FileFault Nat) := do
  match ← Work.readAll stream with
  | .error fault => return .error fault
  | .ok bytes => return .ok (← put call (endOf extent bytes) 0)

/-- Writes the ends of inputs. -/
def tail : Tool := fun _ call => do
  let old := call.arguments.headD ""
  let isOld := usualForm ['-', '+'] [old] != [old]
  if isOld && (call.arguments.drop 1).length > 1 && old.toList.head? == some '-' then
    complain call ("option used in invalid context -- " ++ String.ofList ((old.toList.drop 1).take 1))
    return 1
  else
    let arguments := if (call.arguments.drop 1).length > 1 then call.arguments
      else usualForm ['-', '+'] call.arguments
    let spec : Options := {
      letters := "c:fFn:qs:vz"
      names := partNames ++ [("follow", .optional, 'f'), ("retry", .nothing, 'F'),
        ("pid", .required, 'p')] }
    withOptions { call with arguments } spec 1 fun given => do
      match extentFor given with
      | .error complaint =>
        complain call complaint
        return 1
      | .ok extent => overParts call given (copyEnd call extent) true (inputs given.operands) 0

/-! ## Counting -/

/-- What is counted in an input. -/
structure Counts where
  lines : Nat
  words : Nat
  characters : Nat
  bytes : Nat
  longest : Nat

namespace Counts

/-- Nothing. -/
def zero : Counts :=
  ⟨0, 0, 0, 0, 0⟩

/-- Several counts together. -/
def add (a b : Counts) : Counts :=
  ⟨a.lines + b.lines, a.words + b.words, a.characters + b.characters, a.bytes + b.bytes,
    max a.longest b.longest⟩

/-- Whether a byte stands between words. -/
def isSpace (b : UInt8) : Bool :=
  b == 32 || (9 ≤ b && b ≤ 13)

/-- How many words there are, after a byte that was one between words or not. -/
def wordsFrom : Bool → Nat → List UInt8 → Nat
  | _, n, [] => n
  | wasSpace, n, b :: bs =>
    wordsFrom (isSpace b) (if wasSpace && !isSpace b then n + 1 else n) bs

/-- How wide a line is, which has tabs in it. -/
def widthFrom : Nat → List UInt8 → Nat
  | n, [] => n
  | n, b :: bs =>
    widthFrom (if b == 9 then (n / 8 + 1) * 8 else if b < 32 || (128 ≤ b && b < 192) then n else n + 1) bs

/-- What is counted in bytes. -/
def of (bytes : List UInt8) : Counts where
  lines := bytes.count 10
  words := wordsFrom true 0 bytes
  characters := (bytes.filter fun b => b < 128 || 192 ≤ b).length
  bytes := bytes.length
  longest := (linesOf bytes).foldl (fun n line => max n (widthFrom 0 (chomp line))) 0

/-- The numbers that options ask for. -/
def chosen (given : Given) (c : Counts) : List Nat :=
  let all := given.options.isEmpty
  let one (letters : List Char) (n : Nat) : List Nat :=
    if letters.any given.has then [n] else []
  if all then [c.lines, c.words, c.bytes]
  else
    one ['l'] c.lines ++ one ['w'] c.words ++ one ['m'] c.characters ++ one ['c'] c.bytes ++
      one ['L'] c.longest

/-- A line with numbers. -/
def line (given : Given) (width : Nat) (name? : Option String) (c : Counts) : String :=
  let number (n : Nat) : String :=
    let text := toString n
    String.ofList (List.replicate (width - text.length) ' ') ++ text
  let name :=
    match name? with
    | some name => " " ++ name
    | none => ""
  String.intercalate " " ((c.chosen given).map number) ++ name ++ "\n"

end Counts

/-- The size of an input, if it is a regular file. -/
def sizeOf? (name : String) : Work (Option (Option Nat)) := do
  let size (bytes? : Except FileFault (List UInt8)) : Option Nat := bytes?.toOption.map List.length
  if name == "-" then
    match ← Work.ask (.place 0) with
    | some place =>
      return some (← Work.look fun fs => size (fs.readBytes (FileSystem.absolute place)))
    | none => return some none
  else
    Work.look fun fs =>
      match fs.stat (pathOf name) with
      | .error _ => none
      | .ok (place, .file bytes _) =>
        if (Device.at? place).isSome then some none else some (some bytes.length)
      | .ok _ => some none

/-- How wide numbers are written. -/
def countWidth (given : Given) (names : List String) : Work Nat := do
  if names.length ≤ 1 && (Counts.zero.chosen given).length == 1 then return 1
  let sizes := (← names.mapM sizeOf?).reduceOption
  let total := (sizes.reduceOption).foldl Nat.add 0
  let least := if sizes.any Option.isNone then 7 else 1
  return max least (toString total).length

/-- Counts in inputs. -/
def countEach (call : Call) (given : Given) (width : Nat) :
    List String → Counts → Nat → Work (Counts × Nat)
  | [], total, status => return (total, status)
  | name :: names, total, status => do
    let shown := if given.operands.isEmpty then none else some (Quoted.name name)
    match ← openInput name with
    | .error fault =>
      complain call (inputComplaint name fault)
      countEach call given width names total 1
    | .ok stream =>
      let result ← Work.readAll stream
      closeInput stream
      match result with
      | .ok bytes =>
        let c := Counts.of bytes
        let written ← say call (c.line given width shown) 0
        countEach call given width names (total.add c) (max status written)
      | .error fault =>
        complain call (inputComplaint name fault)
        discard (say call (Counts.zero.line given width shown) 0)
        countEach call given width names total 1

/-- Counts lines, words and bytes. -/
def wc : Tool := fun _ call =>
  withOptions call {
      letters := "clLmw"
      names := [("bytes", .nothing, 'c'), ("chars", .nothing, 'm'), ("lines", .nothing, 'l'),
        ("words", .nothing, 'w'), ("max-line-length", .nothing, 'L')] } 1
    fun given => do
      let width ← countWidth given (inputs given.operands)
      let (total, status) ← countEach call given width (inputs given.operands) Counts.zero 0
      if given.operands.length > 1 then say call (total.line given width (some "total")) status
      else return status

/-! ## Other orders -/

/-- Reads inputs to their ends, each for itself. What cannot be read is complained about. -/
def readEach (call : Call) (complaint : String → FileFault → String) :
    List String → Work (List (List UInt8) × Nat)
  | [] => return ([], 0)
  | name :: names => do
    match ← slurp name with
    | .ok bytes =>
      let (others, status) ← readEach call complaint names
      return (bytes :: others, status)
    | .error fault =>
      complain call (complaint name fault)
      let (others, status) ← readEach call complaint names
      return (others, max 1 status)

/-- Writes the lines of inputs from the last to the first. -/
def tac : Tool := fun _ call =>
  withOptions call { letters := "brs:" } 1 fun given => do
    let complaint (name : String) (fault : FileFault) : String :=
      if fault == .isDirectory then Quoted.name name ++ ": read error: Invalid argument"
      else "failed to open " ++ Quoted.shell name ++ " for reading: " ++ fault.summary
    let (all, status) ← readEach call complaint (inputs given.operands)
    put call (all.map fun bytes => (linesOf bytes).reverse.flatten).flatten status

/-- The characters of bytes, each with all its bytes. -/
def charactersOf : List UInt8 → List (List UInt8)
  | [] => []
  | b :: bs =>
    match charactersOf bs with
    | (c :: cs) :: rest =>
      if 192 ≤ b && 128 ≤ c && c < 192 then (b :: c :: cs) :: rest
      else if 128 ≤ b && b < 192 && 128 ≤ c && c < 192 then (b :: c :: cs) :: rest
      else [b] :: (c :: cs) :: rest
    | rest => [b] :: rest

/-- Writes each line backwards. -/
def rev : Tool := fun _ call =>
  withOptions call { letters := "" } 1 fun given => do
    let complaint (name : String) (fault : FileFault) : String :=
      "cannot open " ++ name ++ ": " ++ fault.summary
    let step (_ : Unit) (line : List UInt8) : Reaction Unit :=
      let tail := if line.getLast? == some 10 then [10] else []
      ⟨(charactersOf (chomp line)).reverse.flatten ++ tail, (), false⟩
    return (← overLines call complaint step (inputs given.operands) () 0).status

end LintRoster.Machine.Tool
