import LintRoster.Machine.Tool
import LintRoster.Shell.Condition
import LintRoster.Shell.Output

/-!
# Tools on words

Tools that work on their arguments alone: they write them, cut them, count with them, or wait.
-/

namespace LintRoster.Machine.Tool

open Shell (Output.isOctal Output.printf Output.pieces Output.Piece)

/-- Succeeds. -/
def succeed : Tool := fun _ _ => return 0

/-- Fails. -/
def fail : Tool := fun _ _ => return 1

/-! ## Writing arguments -/

/-- The character of up to `count` digits of a base, and what follows them. -/
def codeOf (base count : Nat) (cs : List Char) : Char × List Char :=
  let ds := (cs.take count).takeWhile fun c => (Text.digit? base c).isSome
  (Char.ofNat (((Text.digitsValue? base 0 ds).getD 0) % 256), cs.drop ds.length)

/-- A text with its escapes replaced, after the characters in `before`, last first. Tells whether the
text asks to stop there. -/
def unescapeFrom : Nat → List Char → List Char → List Char × Bool
  | 0, before, _ => (before.reverse, false)
  | _, before, [] => (before.reverse, false)
  | fuel + 1, before, '\\' :: c :: rest =>
    match c with
    | 'c' => (before.reverse, true)
    | '0' =>
      let (d, rest) := codeOf 8 3 rest
      unescapeFrom fuel (d :: before) rest
    | 'x' =>
      if rest.head?.any fun d => (Text.digit? 16 d).isSome then
        let (d, rest) := codeOf 16 2 rest
        unescapeFrom fuel (d :: before) rest
      else unescapeFrom fuel ('x' :: '\\' :: before) rest
    | c =>
      match Shell.Output.letter? c with
      | some d => unescapeFrom fuel (d :: before) rest
      | none =>
        if Output.isOctal c then
          let (d, rest) := codeOf 8 3 (c :: rest)
          unescapeFrom fuel (d :: before) rest
        else unescapeFrom fuel (c :: '\\' :: before) rest
  | fuel + 1, before, c :: rest => unescapeFrom fuel (c :: before) rest

/-- The letters of the options in front of words that are to be written. -/
def echoLetters : List String → List Char × List String
  | [] => ([], [])
  | w :: ws =>
    match w.toList with
    | '-' :: c :: cs =>
      if (c :: cs).all fun d => ['n', 'e', 'E'].contains d then
        let (letters, words) := echoLetters ws
        (c :: cs ++ letters, words)
      else ([], w :: ws)
    | _ => ([], w :: ws)

/-- Writes its arguments. -/
def echo : Tool := fun _ call => do
  let (letters, words) := echoLetters call.arguments
  let text := String.intercalate " " words
  let escapes := (letters.reverse.find? (· != 'n')) == some 'e'
  let (text, stops) :=
    if escapes then
      let (cs, stops) := unescapeFrom (text.length + 1) [] text.toList
      (String.ofList cs, stops)
    else (text, false)
  say call (if letters.contains 'n' || stops then text else text ++ "\n") 0

/-- Writes its arguments in a format. -/
def printf : Tool := fun _ call => do
  let arguments := if call.arguments.head? == some "--" then call.arguments.drop 1 else call.arguments
  match arguments with
  | [] => misused call 1 "missing operand"
  | format :: arguments =>
    let w := Output.printf format arguments
    for complaint in w.complaints ++ w.fault.toList do
      complain call complaint
    say call (String.ofList w.text.reverse) (if w.complaints.isEmpty && w.fault.isNone then 0 else 1)

/-- Writes a line over and over. -/
def yes : Tool := fun _ call => do
  let words := if call.arguments.isEmpty then ["y"] else call.arguments
  let line := Bytes.toBytes (String.intercalate " " words ++ "\n")
  let block := (List.replicate (4096 / line.length + 1) line).flatten
  again block Work.rounds
where
  /-- Writes a block over and over, as long as that is possible. -/
  again (block : List UInt8) : Nat → Work Nat
    | 0 => return 1
    | fuel + 1 => do
      match ← Work.ask (.write 1 block) with
      | .ok () => again block fuel
      | .error _ => return 1

/-! ## Paths as words -/

/-- A text without the slashes at its end. -/
def withoutLastSlashes (cs : List Char) : List Char :=
  (cs.reverse.dropWhile (· == '/')).reverse

/-- The last step of a path. -/
def lastStep (path : String) : String :=
  let cs := withoutLastSlashes path.toList
  if cs.isEmpty then if path == "" then "" else "/"
  else String.ofList (cs.reverse.takeWhile (· != '/')).reverse

/-- A path without its last step. -/
def withoutLastStep (path : String) : String :=
  let cs := withoutLastSlashes path.toList
  let dir := withoutLastSlashes (cs.reverse.dropWhile (· != '/')).reverse
  if !dir.isEmpty then String.ofList dir
  else if path.toList.head? == some '/' then "/"
  else "."

/-- A name without an ending, unless nothing else would be left. -/
def withoutEnding (ending name : String) : String :=
  let cs := name.toList
  let cut := cs.take (cs.length - ending.length)
  if ending != "" && ending.toList.isSuffixOf cs && !cut.isEmpty then String.ofList cut else name

/-- Writes the last steps of paths. -/
def basename : Tool := fun _ call =>
  withOptions call {
      letters := "as:z"
      names := [("multiple", .nothing, 'a'), ("suffix", .required, 's'), ("zero", .nothing, 'z')]
      inFront := true } 1
    fun given => do
      let ending := if given.has 'z' then "\x00" else "\n"
      if given.has 'a' || given.has 's' then
        withOperands call given.operands do
          let suffix := (given.value? 's').getD ""
          let names := given.operands.map fun p => withoutEnding suffix (lastStep p) ++ ending
          say call (String.join names) 0
      else
        match given.operands with
        | [] => misused call 1 "missing operand"
        | [path] => say call (lastStep path ++ ending) 0
        | [path, suffix] => say call (withoutEnding suffix (lastStep path) ++ ending) 0
        | _ :: _ :: extra :: _ => misused call 1 ("extra operand " ++ Quoted.curved extra)

/-- Writes paths without their last steps. -/
def dirname : Tool := fun _ call =>
  withOptions call { letters := "z", names := [("zero", .nothing, 'z')] } 1 fun given =>
    withOperands call given.operands do
      let ending := if given.has 'z' then "\x00" else "\n"
      say call (String.join (given.operands.map fun p => withoutLastStep p ++ ending)) 0

/-! ## Numbers as words -/

/-- A decimal number: an integer and how many of its digits stand behind the point. -/
structure Decimal where
  units : Int
  places : Nat
deriving DecidableEq, Repr

namespace Decimal

/-- The decimal number that a text is. -/
def ofText? (text : String) : Option Decimal :=
  let (negative, cs) :=
    match text.toList with
    | '-' :: cs => (true, cs)
    | '+' :: cs => (false, cs)
    | cs => (false, cs)
  let whole := cs.takeWhile Char.isDigit
  let places :=
    match cs.dropWhile Char.isDigit with
    | [] => some []
    | '.' :: ds => if ds.all Char.isDigit then some ds else none
    | _ => none
  match places with
  | none => none
  | some ds =>
    (Text.natural? 10 (whole ++ ds)).map fun n => ⟨if negative then -n else n, ds.length⟩

/-- The number in units of one more place each. -/
def scaledTo (places : Nat) (d : Decimal) : Int :=
  d.units * (Nat.pow 10 (places - d.places) : Nat)

/-- The text of a number of units with some places. -/
def text (places : Nat) (units : Int) : String :=
  let ds := Nat.toDigits 10 units.natAbs
  let ds := List.replicate (places + 1 - ds.length) '0' ++ ds
  let whole := ds.take (ds.length - places)
  let digits := if places == 0 then whole else whole ++ '.' :: ds.drop (ds.length - places)
  String.ofList (if units < 0 then '-' :: digits else digits)

end Decimal

/-- The integers from one to another, in steps. -/
def rangeFrom (step last : Int) : Nat → Int → List Int → List Int
  | 0, _, done => done.reverse
  | fuel + 1, n, done =>
    if (step > 0 && n > last) || (step < 0 && n < last) then done.reverse
    else rangeFrom step last fuel (n + step) (n :: done)

/-- The integers from one to another, in steps. -/
def range (first step last : Int) : List Int :=
  if step == 0 then [] else rangeFrom step last ((last - first).natAbs / step.natAbs + 2) first []

/-- Fills a number up to a width with zeros. -/
def padZeros (width : Nat) (text : String) : String :=
  let zeros := String.ofList (List.replicate (width - text.length) '0')
  match text.toList with
  | '-' :: cs => "-" ++ zeros ++ String.ofList cs
  | _ => zeros ++ text

/-- Writes numbers in order. -/
def writeRange (call : Call) (given : Given) (first step last : Decimal) : Work Nat := do
  let places := max first.places step.places
  let finest := max places last.places
  let coarse (n : Int) : Int := n / (Nat.pow 10 (finest - places) : Nat)
  let ns := range (first.scaledTo finest) (step.scaledTo finest) (last.scaledTo finest)
  let texts := ns.map fun n => Decimal.text places (coarse n)
  let width := texts.foldl (fun w t => max w t.length) 0
  let texts := if given.has 'w' then texts.map (padZeros width) else texts
  let texts :=
    match given.value? 'f' with
    | some format => texts.map fun t => String.ofList (Output.printf format [t]).text.reverse
    | none => texts
  let separator := (given.value? 's').getD "\n"
  if texts.isEmpty then return 0
  else say call (String.intercalate separator texts ++ "\n") 0

/-- Whether a word is a negative number and no option. -/
def isNegativeNumber (w : String) : Bool :=
  match w.toList with
  | '-' :: c :: _ => c.isDigit || c == '.'
  | _ => false

/-- Writes numbers in order. -/
def seq : Tool := fun _ call =>
  let spec : Options := {
    letters := "f:s:w"
    names := [("equal-width", .nothing, 'w'), ("format", .required, 'f'),
      ("separator", .required, 's')]
    inFront := true }
  let options := call.arguments.takeWhile fun w => !isNegativeNumber w
  let act (given : Given) : Work Nat := do
    let operands := given.operands ++ call.arguments.drop options.length
    match operands.find? fun w => (Decimal.ofText? w).isNone with
    | some w => misused call 1 ("invalid floating point argument: " ++ Quoted.curved w)
    | none =>
      match operands.filterMap Decimal.ofText? with
      | [] => misused call 1 "missing operand"
      | [last] => writeRange call given ⟨1, 0⟩ ⟨1, 0⟩ last
      | [first, last] => writeRange call given first ⟨1, 0⟩ last
      | [first, step, last] =>
        if step.units == 0 then
          misused call 1 ("invalid Zero increment value: " ++ Quoted.curved (operands[1]?.getD ""))
        else writeRange call given first step last
      | _ => misused call 1 ("extra operand " ++ Quoted.curved (operands[3]?.getD ""))
  withOptions { call with arguments := options } spec 1 act

/-! ## Waiting -/

/-- A span in nanoseconds that is written as a number of seconds, possibly with another unit. -/
def spanOf? (text : String) : Option Nat :=
  let cs := text.toList
  let number := cs.takeWhile fun c => c.isDigit || c == '.'
  let scale? : Option Nat :=
    match cs.drop number.length with
    | [] | ['s'] => some 1
    | ['m'] => some 60
    | ['h'] => some 3600
    | ['d'] => some 86400
    | _ => none
  match scale?, Decimal.ofText? (String.ofList number) with
  | some scale, some d => some (d.units.natAbs * scale * 1000000000 / Nat.pow 10 d.places)
  | _, _ => if text == "infinity" || text == "inf" then some Work.rounds else none

/-- Waits. -/
def sleep : Tool := fun _ call =>
  withOptions call { letters := "" } 1 fun given =>
    withOperands call given.operands do
      match given.operands.filter fun w => (spanOf? w).isNone with
      | [] =>
        Work.ask (.pass ((given.operands.filterMap spanOf?).foldl Nat.add 0))
        return 0
      | bad =>
        for w in bad do
          complain call ("invalid time interval " ++ Quoted.curved w)
        hint call
        return 1

/-! ## Conditions and surroundings -/

/-- Decides a condition. -/
def test : Tool := fun _ call => do
  let words := call.arguments.map fun w => if w == "==" then "=" else w
  match ← Work.look fun fs => Shell.Condition.evaluate fs (lastStep call.name) words with
  | .ok holds => return if holds then 0 else 1
  | .error complaint =>
    complain call complaint
    return 2

/-- Writes the path of the current directory. -/
def pwd : Tool := fun _ call => do
  let path ← Work.look fun fs => Bytes.ofText (FileSystem.absolute fs.cwd).text
  say call (path ++ "\n") 0

/-- Writes the values of variables. -/
def printenv : Tool := fun _ call =>
  withOptions call { letters := "0", names := [("null", .nothing, '0')], inFront := true } 2
    fun given => do
      let ending := if given.has '0' then "\x00" else "\n"
      if given.operands.isEmpty then
        let lines := call.environment.map fun v => v.1 ++ "=" ++ v.2 ++ ending
        say call (String.join lines) 0
      else
        let values := given.operands.map fun name => call.environment.get? name
        let status := if values.all Option.isSome then 0 else 1
        say call (String.join (values.reduceOption.map (· ++ ending))) status

/-- Writes the name of the user. -/
def whoami : Tool := fun _ call => say call "root\n" 0

/-- Writes the numbers and names of the user. -/
def id : Tool := fun _ call =>
  withOptions call { letters := "uGgnr" } 1 fun given =>
    if (given.last? ['u', 'g', 'G']).isSome then
      say call (if given.has 'n' then "root\n" else "0\n") 0
    else say call "uid=0(root) gid=0(root) groups=0(root)\n" 0

/-- Writes the name of the system. -/
def uname : Tool := fun _ call => say call "Linux\n" 0

end LintRoster.Machine.Tool
