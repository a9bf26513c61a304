import LintRoster.Machine.Tool.Lines

/-!
# Tools on parts of lines

Tools that cut parts out of lines, break them, number them, put them side by side, or compare
neighbours.
-/

namespace LintRoster.Machine.Tool

/-! ## Cutting -/

/-- Positions from one to another, the end included. One without an end goes on. -/
structure Range where
  first : Nat
  last : Option Nat

namespace Range

/-- Whether a position is in a range. -/
def holds (r : Range) (n : Nat) : Bool :=
  r.first ≤ n && r.last.all (n ≤ ·)

/-- The range that a text means. -/
def ofText (fields : Bool) (text : String) : Except String Range :=
  let numbered := if fields then "fields are numbered from 1"
    else "byte/character positions are numbered from 1"
  let number (cs : List Char) : Except String Nat :=
    match Text.natural? 10 cs with
    | some 0 => .error numbered
    | some n => .ok n
    | none =>
      let bad := String.ofList (cs.dropWhile Char.isDigit)
      .error ((if fields then "invalid field value " else "invalid byte/character position ") ++
        Quoted.curved bad)
  match text.splitOn "-" with
  | [""] => .error numbered
  | [n] => do
    let n ← number n.toList
    return ⟨n, some n⟩
  | ["", ""] => .error ("invalid range with no endpoint: -")
  | ["", last] => do return ⟨1, some (← number last.toList)⟩
  | [first, ""] => do return ⟨← number first.toList, none⟩
  | [first, last] => do
    let first ← number first.toList
    let last ← number last.toList
    if last < first then .error "invalid decreasing range" else return ⟨first, some last⟩
  | _ => .error (if fields then "invalid field range" else "invalid byte or character range")

/-- The ranges that a text means. -/
def listOf (fields : Bool) (text : String) : Except String (List Range) :=
  let unified := String.ofList (text.toList.map fun c => if c == ' ' || c == '\t' then ',' else c)
  (unified.splitOn ",").mapM (ofText fields)

end Range

/-- The entries of a list at chosen positions. -/
def chosenAt {α : Type} (chosen : Nat → Bool) (xs : List α) : List α :=
  (xs.zipIdx 1).filterMap fun (x, n) => if chosen n then some x else none

/-- Whether a position begins a run of chosen positions. -/
def startsRun (ranges : List Range) (complement : Bool) (n : Nat) : Bool :=
  if complement then n == 1 || !(ranges.all fun r => !r.holds (n - 1))
  else ranges.any (fun r => r.first == n) && ranges.all fun r => !(r.holds n && r.holds (n - 1))

/-- What is cut out of a line byte by byte. -/
def cutBytes (ranges : List Range) (complement : Bool) (separator? : Option (List UInt8))
    (line : List UInt8) : List UInt8 :=
  let chosen (n : Nat) : Bool := ranges.any (·.holds n) != complement
  let parts := (line.zipIdx 1).filterMap fun (b, n) =>
    if !chosen n then none
    else if startsRun ranges complement n then some ((separator?.getD []) ++ [b])
    else some [b]
  let joined := parts.flatten
  match separator? with
  | some s => if s.isPrefixOf joined then joined.drop s.length else joined
  | none => joined

/-- What is cut out of a line field by field. -/
def cutFields (ranges : List Range) (complement onlySeparated : Bool) (delimiter : UInt8)
    (separator : List UInt8) (line : List UInt8) : Option (List UInt8) :=
  if !line.contains delimiter then if onlySeparated then none else some line
  else
    let chosen (n : Nat) : Bool := ranges.any (·.holds n) != complement
    some (separator.intercalate (chosenAt chosen (line.splitOnP (· == delimiter))))

/-- Cuts parts out of lines. -/
def cut : Tool := fun _ call =>
  withOptions call {
      letters := "b:c:d:f:nsz"
      names := [("bytes", .required, 'b'), ("characters", .required, 'c'),
        ("delimiter", .required, 'd'), ("fields", .required, 'f'), ("only-delimited", .nothing, 's'),
        ("output-delimiter", .required, 'o'), ("complement", .nothing, 'k')] } 1
    fun given => do
      let lists := given.options.filter fun o => ['b', 'c', 'f'].contains o.1
      let delimiter? := given.value? 'd'
      let separator? := (given.value? 'o').map Bytes.toBytes
      match lists with
      | [] => misused call 1 "you must specify a list of bytes, characters, or fields"
      | _ :: _ :: _ => misused call 1 "only one list may be specified"
      | [(kind, text)] =>
        let fields := kind == 'f'
        if (delimiter?.getD "").length > 1 then
          misused call 1 "the delimiter must be a single character"
        else if !fields && delimiter?.isSome then
          misused call 1 "an input delimiter may be specified only when operating on fields"
        else if !fields && given.has 's' then
          misused call 1
            "suppressing non-delimited lines makes sense\n\tonly when operating on fields"
        else
          match Range.listOf fields text with
          | .error complaint => misused call 1 complaint
          | .ok ranges =>
            let delimiter :=
              match delimiter? with
              | some d => (Bytes.toBytes d).headD 0
              | none => 9
            let complement := given.has 'k'
            let cutOne (line : List UInt8) : Option (List UInt8) :=
              if fields then
                cutFields ranges complement (given.has 's') delimiter
                  (separator?.getD [delimiter]) line
              else some (cutBytes ranges complement separator? line)
            let step (_ : Unit) (line : List UInt8) : Reaction Unit :=
              ⟨((cutOne (chomp line)).map (· ++ [10])).getD [], (), false⟩
            return (← overLines call inputComplaint step (inputs given.operands) () 0).status

/-! ## Side by side -/

/-- The separators that a text stands for, one after the other. -/
def separatorsOf : List Char → List (List UInt8)
  | '\\' :: c :: cs =>
    let one : List UInt8 :=
      match c with
      | 'n' => [10]
      | 't' => [9]
      | '0' => []
      | c => [Bytes.byteOf c]
    one :: separatorsOf cs
  | c :: cs => [Bytes.byteOf c] :: separatorsOf cs
  | [] => []

/-- Pieces with separators between them, which are used in turn. -/
def joinInTurn (separators : List (List UInt8)) : Nat → List (List UInt8) → List UInt8
  | _, [] => []
  | _, [piece] => piece
  | n, piece :: pieces =>
    let separator := separators[n % max 1 separators.length]?.getD []
    piece ++ separator ++ joinInTurn separators (n + 1) pieces

/-- The lines of inputs side by side. -/
def sideBySide (separators : List (List UInt8)) : Nat → List (List (List UInt8)) → List UInt8
  | 0, _ => []
  | fuel + 1, columns =>
    if columns.all List.isEmpty then []
    else
      let row := joinInTurn separators 0 (columns.map fun lines => chomp (lines.headD []))
      row ++ 10 :: sideBySide separators fuel (columns.map (List.drop 1))

/-- The lines that fall to the columns of one input that is named several times. -/
def dealt (count index : Nat) (lines : List (List UInt8)) : List (List UInt8) :=
  chosenAt (fun n => (n - 1) % count == index) lines

/-- The columns for the inputs of some names. The input of the tool itself is shared by all that name
it. -/
def columnsFor (read : List (String × List (List UInt8))) (own : List (List UInt8)) :
    List (List (List UInt8)) :=
  let count := (read.filter fun r => r.1 == "-").length
  (read.zipIdx.map fun (r, i) =>
    if r.1 == "-" then dealt count ((read.take i).filter fun r => r.1 == "-").length own else r.2)

/-- Reads inputs, of which none may be missing. -/
def readAllOrFail (call : Call) : List String → Work (Option (List (String × List (List UInt8))))
  | [] => return some []
  | name :: names => do
    if name == "-" then return (← readAllOrFail call names).map (("-", []) :: ·)
    match ← slurp name with
    | .error fault =>
      complain call (inputComplaint name fault)
      return none
    | .ok bytes => return (← readAllOrFail call names).map ((name, linesOf bytes) :: ·)

/-- Writes the lines of inputs side by side. -/
def paste : Tool := fun _ call =>
  withOptions call {
      letters := "d:sz"
      names := [("delimiters", .required, 'd'), ("serial", .nothing, 's')] } 1
    fun given => do
      let separators := separatorsOf ((given.value? 'd').getD "\t").toList
      let names := inputs given.operands
      match ← readAllOrFail call names with
      | none => return 1
      | some read =>
        let own ←
          if names.contains "-" then pure (linesOf ((← slurp "-").toOption.getD [])) else pure []
        if given.has 's' then
          let rows := (columnsFor read own).map fun lines =>
            joinInTurn separators 0 (lines.map chomp) ++ [10]
          put call rows.flatten 0
        else
          let columns := columnsFor read own
          let count := columns.foldl (fun n lines => max n lines.length) 0
          put call (sideBySide separators count columns) 0

/-! ## Breaking and numbering -/

/-- A line in pieces that are not wider than a limit. The present piece comes last first. -/
def brokenFrom (width : Nat) (atBlanks : Bool) : Nat → List UInt8 → List UInt8 → List (List UInt8)
  | 0, piece, rest => [piece.reverse ++ rest]
  | _, piece, [] => if piece.isEmpty then [] else [piece.reverse]
  | fuel + 1, piece, b :: bs =>
    if piece.length < width then brokenFrom width atBlanks fuel (b :: piece) bs
    else
      let kept := piece.dropWhile fun c => c != 32 && c != 9
      if atBlanks && !kept.isEmpty then
        let moved := piece.take (piece.length - kept.length)
        kept.reverse :: brokenFrom width atBlanks fuel moved (b :: bs)
      else piece.reverse :: brokenFrom width atBlanks fuel [b] bs

/-- Breaks lines that are too wide. -/
def fold : Tool := fun _ call => do
  let arguments := call.arguments.map fun w =>
    match w.toList with
    | '-' :: c :: cs => if (c :: cs).all Char.isDigit then "-w" ++ String.ofList (c :: cs) else w
    | _ => w
  withOptions { call with arguments } {
      letters := "bsw:"
      names := [("bytes", .nothing, 'b'), ("spaces", .nothing, 's'), ("width", .required, 'w')] } 1
    fun given => do
      let text := (given.value? 'w').getD "80"
      match amountOf? text with
      | none | some 0 =>
        let tail := if text == "0" then ": Numerical result out of range" else ""
        complain call ("invalid number of columns: " ++ Quoted.curved text ++ tail)
        return 1
      | some width =>
        let step (_ : Unit) (line : List UInt8) : Reaction Unit :=
          let body := chomp line
          let pieces := brokenFrom width (given.has 's') (2 * body.length + 1) [] body
          let tail := if line.getLast? == some 10 then [10] else []
          ⟨[10].intercalate pieces ++ tail, (), false⟩
        return (← overLines call inputComplaint step (inputs given.operands) () 0).status

/-- How lines are numbered. -/
structure Numbering where
  blankToo : Bool
  none : Bool
  width : Nat
  separator : String
  start : Int
  increment : Int
  format : String

/-- A number in its column. -/
def numberText (n : Numbering) (value : Int) : String :=
  let text := toString value
  let fill (c : Char) : String := String.ofList (List.replicate (n.width - text.length) c)
  if n.format == "ln" then text ++ fill ' '
  else if n.format == "rz" then
    if value < 0 then "-" ++ fill '0' ++ String.ofList (text.toList.drop 1) else fill '0' ++ text
  else fill ' ' ++ text

/-- Numbers lines. -/
def nl : Tool := fun _ call =>
  withOptions call {
      letters := "b:d:f:h:i:l:n:ps:v:w:"
      names := [("body-numbering", .required, 'b'), ("line-increment", .required, 'i'),
        ("number-format", .required, 'n'), ("number-separator", .required, 's'),
        ("starting-line-number", .required, 'v'), ("number-width", .required, 'w')] } 1
    fun given => do
      let style := (given.value? 'b').getD "t"
      let format := (given.value? 'n').getD "rn"
      let number (c : Char) (usual : Int) : Int := ((given.value? c).bind String.toInt?).getD usual
      if !(["a", "t", "n"].contains style) then
        misused call 1 ("invalid body numbering style: " ++ Quoted.curved style)
      else if !(["ln", "rn", "rz"].contains format) then
        misused call 1 ("invalid line numbering format: " ++ Quoted.curved format)
      else
        let n : Numbering := ⟨style == "a", style == "n", (number 'w' 6).toNat,
          (given.value? 's').getD "\t", number 'v' 1, number 'i' 1, format⟩
        let indent := List.replicate (n.width + n.separator.length) (32 : UInt8)
        let step (value : Int) (line : List UInt8) : Reaction Int :=
          let body := chomp line
          if n.none || (body.isEmpty && !n.blankToo) then ⟨indent ++ body ++ [10], value, false⟩
          else
            let front := Bytes.toBytes (numberText n value ++ n.separator)
            ⟨front ++ body ++ [10], value + n.increment, false⟩
        return (← overLines call inputComplaint step (inputs given.operands) n.start 0).status

/-! ## Neighbours -/

/-- A run of lines that count as equal: the first one, and all of them, last first. -/
structure Run where
  first : List UInt8
  all : List (List UInt8)

/-- The runs of lines with equal keys. -/
def runsOf (key : List UInt8 → List UInt8) (lines : List (List UInt8)) : List Run :=
  let step (runs : List Run) (line : List UInt8) : List Run :=
    match runs with
    | r :: rest =>
      if key r.first == key line then { r with all := line :: r.all } :: rest
      else ⟨line, [line]⟩ :: r :: rest
    | [] => [⟨line, [line]⟩]
  (lines.foldl step []).reverse

/-- A line without some of its first fields, the blanks in front of them included. -/
def skipFields : Nat → List UInt8 → List UInt8
  | 0, line => line
  | n + 1, line => skipFields n ((line.dropWhile isBlankByte).dropWhile fun b => !isBlankByte b)

/-- Writes lines without repeating neighbours, or tells about them. -/
def uniq : Tool := fun _ call =>
  withOptions call {
      letters := "cdDf:is:uw:z"
      names := [("count", .nothing, 'c'), ("repeated", .nothing, 'd'), ("all-repeated", .optional, 'D'),
        ("skip-fields", .required, 'f'), ("ignore-case", .nothing, 'i'),
        ("skip-chars", .required, 's'), ("unique", .nothing, 'u'), ("check-chars", .required, 'w')] } 1
    fun given => do
      let kinds := [('f', "fields to skip"), ('s', "bytes to skip"), ('w', "bytes to compare")]
      let bad := kinds.findSome? fun (c, what) =>
        (given.value? c).bind fun w => if w.toNat?.isNone then some (w, what) else none
      match bad, given.operands with
      | some (w, what), _ =>
        complain call (w ++ ": invalid number of " ++ what)
        return 1
      | none, _ :: _ :: extra :: _ => misused call 1 ("extra operand " ++ Quoted.curved extra)
      | none, operands =>
        let number (c : Char) : Option Nat := (given.value? c).bind String.toNat?
        let key (line : List UInt8) : List UInt8 :=
          let rest := (skipFields ((number 'f').getD 0) (chomp line)).drop ((number 's').getD 0)
          let rest := match number 'w' with | some n => rest.take n | none => rest
          if given.has 'i' then rest.map upperByte else rest
        let name := operands.headD "-"
        match ← slurp name with
        | .error fault =>
          complain call (inputComplaint name fault)
          return 1
        | .ok bytes =>
          let wanted (r : Run) : Bool :=
            (!(given.has 'd' || given.has 'D') || r.all.length > 1) &&
              (!given.has 'u' || r.all.length == 1)
          let written (r : Run) : List UInt8 :=
            if given.has 'D' then (r.all.reverse.map withLineFeed).flatten
            else if given.has 'c' then
              let count := toString r.all.length
              let front := String.ofList (List.replicate (7 - count.length) ' ') ++ count ++ " "
              Bytes.toBytes front ++ withLineFeed r.first
            else withLineFeed r.first
          let result := (((runsOf key (linesOf bytes)).filter wanted).map written).flatten
          match operands.drop 1 with
          | [] | "-" :: _ => put call result 0
          | target :: _ =>
            match ← Work.ask (.open (pathOf target) .write) with
            | .error fault =>
              complain call (inputComplaint target fault)
              return 1
            | .ok stream =>
              discard (Work.ask (.copy stream 1))
              put call result 0

/-- In which of two files a line is. -/
inductive Side where
  | first
  | second
  | both
deriving DecidableEq

/-- The lines of two files in order, as far as both are in order, with the sides that they are on. -/
def mergeSides : Nat → List (List UInt8) → List (List UInt8) → List (Side × List UInt8)
  | 0, _, _ => []
  | _, [], bs => bs.map fun b => (.second, b)
  | _, as, [] => as.map fun a => (.first, a)
  | fuel + 1, a :: as, b :: bs =>
    match compareBytes a b with
    | .lt => (.first, a) :: mergeSides fuel as (b :: bs)
    | .gt => (.second, b) :: mergeSides fuel (a :: as) bs
    | .eq => (.both, a) :: mergeSides fuel as bs

/-- Whether lines are in order. -/
def isOrdered : List (List UInt8) → Bool
  | a :: b :: rest => compareBytes a b != .gt && isOrdered (b :: rest)
  | _ => true

/-- Compares the lines of two files. -/
def comm : Tool := fun _ call =>
  withOptions call {
      letters := "123z"
      names := [("output-delimiter", .required, 'o'), ("check-order", .nothing, 'c'),
        ("nocheck-order", .nothing, 'n')] } 1
    fun given => do
      match given.operands with
      | [] => misused call 1 "missing operand"
      | [a] => misused call 1 ("missing operand after " ++ Quoted.curved a)
      | [a, b] =>
        match ← slurp a, ← slurp b with
        | .error fault, _ =>
          complain call (inputComplaint a fault)
          return 1
        | _, .error fault =>
          complain call (inputComplaint b fault)
          return 1
        | .ok first, .ok second =>
          let as := (linesOf first).map chomp
          let bs := (linesOf second).map chomp
          let separator := Bytes.toBytes ((given.value? 'o').getD "\t")
          let lead (columns : List Char) : List UInt8 :=
            (columns.filter fun c => !given.has c).flatMap fun _ => separator
          let written (entry : Side × List UInt8) : List UInt8 :=
            let column := match entry.1 with | .first => '1' | .second => '2' | .both => '3'
            let before := match entry.1 with | .first => [] | .second => ['1'] | .both => ['1', '2']
            if given.has column then [] else lead before ++ entry.2 ++ [10]
          let merged := mergeSides (as.length + bs.length + 1) as bs
          let status ← put call (merged.flatMap written) 0
          let unpaired := merged.any fun entry => entry.1 != .both
          let disordered := !given.has 'n' && unpaired && !(isOrdered as && isOrdered bs)
          if disordered then
            if !isOrdered as then complain call "file 1 is not in sorted order"
            if !isOrdered bs then complain call "file 2 is not in sorted order"
            complain call "input is not in sorted order"
            return 1
          else return status
      | _ :: _ :: extra :: _ => misused call 1 ("extra operand " ++ Quoted.curved extra)

end LintRoster.Machine.Tool
