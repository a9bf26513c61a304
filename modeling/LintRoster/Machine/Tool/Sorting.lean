import LintRoster.Machine.Tool.Lines

/-!
# Sorting

A tool that writes lines in order. Lines are compared by keys, which are parts of lines with an order
of their own, and in the end as a whole.
-/

namespace LintRoster.Machine.Tool

namespace Sorting

/-- What keys are compared as. -/
inductive Measure where
  | text
  | number
  | float
  | amount
  | month
  | version
deriving DecidableEq, Repr

/-- How keys are compared. -/
structure Order where
  measure : Measure
  folds : Bool
  /-- Whether only blanks, letters and digits count. -/
  plainOnly : Bool
  /-- Whether only characters that are shown count. -/
  shownOnly : Bool
  reverses : Bool
  skipsBlanks : Bool
deriving DecidableEq

namespace Order

/-- The order of lines as texts. -/
def usual : Order :=
  ⟨.text, false, false, false, false, false⟩

/-- An order changed by a letter. -/
def add? (o : Order) (c : Char) : Option Order :=
  match c with
  | 'n' => some { o with measure := .number }
  | 'g' => some { o with measure := .float }
  | 'h' => some { o with measure := .amount }
  | 'M' => some { o with measure := .month }
  | 'V' => some { o with measure := .version }
  | 'f' => some { o with folds := true }
  | 'd' => some { o with plainOnly := true }
  | 'i' => some { o with shownOnly := true }
  | 'r' => some { o with reverses := true }
  | 'b' => some { o with skipsBlanks := true }
  | 'R' => some o
  | _ => none

end Order

/-- A key: from a character of a field to the end of a line, or to a character of a field. No character
of the last field stands for all of it. Fields and characters are counted from zero. -/
structure Key where
  field : Nat
  character : Nat
  last : Option (Nat × Nat)
  skipsBlanksAtEnd : Bool
  order : Order

/-! ## Numbers -/

/-- A number: a mantissa and a power of ten. -/
structure Number where
  mantissa : Int
  exponent : Int

namespace Number

/-- Compares numbers. -/
def compare (a b : Number) : Ordering :=
  let least := min a.exponent b.exponent
  let scaled (x : Number) : Int := x.mantissa * (Nat.pow 10 (x.exponent - least).toNat : Nat)
  Ord.compare (scaled a) (scaled b)

/-- The number at the beginning of a text, and what follows it. -/
def scan (cs : List Char) : Option Number × List Char :=
  let (negative, cs) :=
    match cs with
    | '-' :: cs => (true, cs)
    | cs => (false, cs)
  let whole := cs.takeWhile Char.isDigit
  let rest := cs.drop whole.length
  let places :=
    match rest with
    | '.' :: cs => cs.takeWhile Char.isDigit
    | _ => []
  let rest := if rest.head? == some '.' then rest.drop (places.length + 1) else rest
  match Text.natural? 10 (whole ++ places) with
  | none => (none, rest)
  | some n => (some ⟨if negative then -n else n, -(places.length : Int)⟩, rest)

/-- The number that a text begins with, or zero. -/
def leading (cs : List Char) : Number :=
  (scan cs).1.getD ⟨0, 0⟩

/-- The greatest power of ten that counts. -/
def powerLimit : Int :=
  5000

/-- The number that a text begins with, which may have a power of ten. -/
def float? (cs : List Char) : Option Number :=
  let cs := if cs.head? == some '+' then cs.drop 1 else cs
  match scan cs with
  | (none, _) => none
  | (some n, rest) =>
    let power :=
      match rest with
      | e :: rest =>
        if e != 'e' && e != 'E' then 0
        else
          let (negative, ds) :=
            match rest with
            | '-' :: ds => (true, ds)
            | '+' :: ds => (false, ds)
            | ds => (false, ds)
          let value := (Text.natural? 10 (ds.takeWhile Char.isDigit)).getD 0
          if negative then -(value : Int) else (value : Int)
      | [] => 0
    some { n with exponent := n.exponent + max (-powerLimit) (min powerLimit power) }

end Number

/-- The letters behind amounts, the least first. -/
def amountLetters : List Char :=
  ['K', 'M', 'G', 'T', 'P', 'E', 'Z', 'Y', 'R', 'Q']

/-- Compares amounts with letters behind them. -/
def compareAmounts (a b : List Char) : Ordering :=
  let rank (cs : List Char) : Int :=
    let (n?, rest) := Number.scan cs
    let n := n?.getD ⟨0, 0⟩
    let letter := (rest.head?.map Char.toUpper).bind fun c => amountLetters.findIdx? (· == c)
    let size : Int := match letter with | some i => i + 1 | none => 0
    if n.mantissa == 0 then 0 else if n.mantissa < 0 then -size - 1 else size + 1
  (Ord.compare (rank a) (rank b)).then (Number.compare (Number.leading a) (Number.leading b))

/-- The months. -/
def months : List String :=
  ["JAN", "FEB", "MAR", "APR", "MAY", "JUN", "JUL", "AUG", "SEP", "OCT", "NOV", "DEC"]

/-- The number of the month that a text begins with, or zero. -/
def month (cs : List Char) : Nat :=
  let name := String.ofList ((cs.take 3).map Char.toUpper)
  match months.findIdx? (· == name) with
  | some i => i + 1
  | none => 0

/-! ## Versions -/

/-- The rank of a character in a version. -/
def versionRank (c? : Option Char) : Int :=
  match c? with
  | none => 0
  | some '~' => -1
  | some c => if c.isDigit then 0 else if c.isAlpha then c.toNat else c.toNat + 256

/-- Compares the parts of versions in front of the next digits, and gives the rest of both. -/
def compareFronts : Nat → List Char → List Char → Ordering × List Char × List Char
  | 0, a, b => (.eq, a, b)
  | fuel + 1, a, b =>
    let isFront (cs : List Char) : Bool := cs.head?.any fun c => !c.isDigit
    if !isFront a && !isFront b then (.eq, a, b)
    else
      match Ord.compare (versionRank a.head?) (versionRank b.head?) with
      | .eq => compareFronts fuel (a.drop 1) (b.drop 1)
      | o => (o, a, b)

/-- Compares versions piece by piece. -/
def compareVersions : Nat → List Char → List Char → Ordering
  | 0, _, _ => .eq
  | fuel + 1, a, b =>
    if a.isEmpty && b.isEmpty then .eq
    else
      match compareFronts (a.length + b.length + 1) a b with
      | (.eq, a, b) =>
        let x := a.takeWhile Char.isDigit
        let y := b.takeWhile Char.isDigit
        let value (ds : List Char) : Nat := (Text.natural? 10 ds).getD 0
        (Ord.compare (value x) (value y)).then
          (compareVersions fuel (a.drop x.length) (b.drop y.length))
      | (o, _, _) => o

/-- A text without endings such as those of file names. -/
def withoutEndings (cs : List Char) : List Char :=
  let pieces := (String.ofList cs).splitOn "."
  let isEnding (p : String) : Bool :=
    match p.toList with
    | c :: rest => (c.isAlpha || c == '~') && rest.all fun d => d.isAlphanum || d == '~'
    | [] => false
  let kept := (pieces.drop 1).reverse.dropWhile isEnding
  (String.intercalate "." (pieces.take 1 ++ kept.reverse)).toList

/-- Compares texts as versions. -/
def compareAsVersions (a b : List Char) : Ordering :=
  let fuel := a.length + b.length + 1
  (compareVersions fuel (withoutEndings a) (withoutEndings b)).then (compareVersions fuel a b)

/-! ## Keys of lines -/

/-- A line from a field on. -/
def fromField (separator? : Option UInt8) : Nat → List UInt8 → List UInt8
  | 0, line => line
  | n + 1, line =>
    match separator? with
    | some s => fromField separator? n ((line.dropWhile (· != s)).drop 1)
    | none =>
      fromField separator? n ((line.dropWhile isBlankByte).dropWhile fun b => !isBlankByte b)

/-- How long a line is up to the end of a number of fields. -/
def lengthOfFields (separator? : Option UInt8) (line : List UInt8) (fields characters : Nat) : Nat :=
  match separator? with
  | some s =>
    let before := fromField separator? (fields - 1) line
    let rest := if fields == 0 then line else before.dropWhile (· != s)
    let skipped := if fields != 0 && characters != 0 then 1 else 0
    line.length - (rest.drop skipped).length
  | none => line.length - (fromField separator? fields line).length

/-- The part of a line that a key means. -/
def Key.part (separator? : Option UInt8) (k : Key) (line : List UInt8) : List UInt8 :=
  let start := fromField separator? k.field line
  let start := if k.order.skipsBlanks then start.dropWhile isBlankByte else start
  let start := start.drop k.character
  let offset := line.length - start.length
  match k.last with
  | none => start
  | some (field, characters) =>
    let fields := if characters == 0 then field + 1 else field
    let stop := lengthOfFields separator? line fields characters
    let stop :=
      if characters == 0 then stop
      else
        let blanks := if k.skipsBlanksAtEnd then ((line.drop stop).takeWhile isBlankByte).length else 0
        min line.length (stop + blanks + characters)
    start.take (stop - offset)

/-- Compares parts of lines. -/
def Order.compare (o : Order) (a b : List UInt8) : Ordering :=
  let text (bs : List UInt8) : List UInt8 :=
    let isShown (b : UInt8) : Bool := 32 ≤ b && b != 127
    let isPlain (b : UInt8) : Bool := isBlankByte b || (Bytes.charOf b).isAlphanum
    let bs := if o.plainOnly then bs.filter isPlain else if o.shownOnly then bs.filter isShown else bs
    if o.folds then bs.map upperByte else bs
  let chars (bs : List UInt8) : List Char := (bs.dropWhile isBlankByte).map Bytes.charOf
  let result :=
    match o.measure with
    | .text => compareBytes (text a) (text b)
    | .number => Number.compare (Number.leading (chars a)) (Number.leading (chars b))
    | .float =>
      match Number.float? (chars a), Number.float? (chars b) with
      | none, none => .eq
      | none, some _ => .lt
      | some _, none => .gt
      | some x, some y => Number.compare x y
    | .amount => compareAmounts (chars a) (chars b)
    | .month => Ord.compare (month (chars a)) (month (chars b))
    | .version => compareAsVersions ((text a).map Bytes.charOf) ((text b).map Bytes.charOf)
  if o.reverses then result.swap else result

/-- How lines are sorted. -/
structure Sorter where
  separator : Option UInt8
  keys : List Key
  reverses : Bool
  isStable : Bool
  isUnique : Bool

namespace Sorter

/-- Compares lines by their keys. -/
def compareKeys (s : Sorter) (a b : List UInt8) : Ordering :=
  s.keys.foldl (fun o k =>
    o.then (k.order.compare (k.part s.separator a) (k.part s.separator b))) .eq

/-- Compares lines. -/
def compare (s : Sorter) (a b : List UInt8) : Ordering :=
  let whole := if s.reverses then (compareBytes a b).swap else compareBytes a b
  if s.keys.isEmpty then whole
  else if s.isStable || s.isUnique then s.compareKeys a b
  else (s.compareKeys a b).then whole

/-- Lines without those that are equal to the ones before them. -/
def withoutEqual (s : Sorter) : List (List UInt8) → List (List UInt8)
  | a :: b :: rest =>
    if s.compare a b == .eq then s.withoutEqual (a :: rest) else a :: s.withoutEqual (b :: rest)
  | lines => lines
termination_by lines => lines.length

/-- Lines in order. -/
def sort (s : Sorter) (lines : List (List UInt8)) : List (List UInt8) :=
  let sorted := lines.mergeSort fun a b => s.compare a b != .gt
  if s.isUnique then s.withoutEqual sorted else sorted

/-- The first line that is out of order, with its number. -/
def disorder? (s : Sorter) : Nat → List (List UInt8) → Option (Nat × List UInt8)
  | n, a :: b :: rest =>
    let o := s.compare a b
    if o == .gt || (o == .eq && s.isUnique) then some (n + 1, b) else s.disorder? (n + 1) (b :: rest)
  | _, _ => none

end Sorter

/-! ## Reading keys -/

/-- A number at the beginning of a description of a key, and what follows it. -/
def countAt (what : String) (cs : List Char) : Except String (Nat × List Char) :=
  let ds := cs.takeWhile Char.isDigit
  match Text.natural? 10 ds with
  | some n => .ok (n, cs.drop ds.length)
  | none => .error (what ++ ": invalid count at start of " ++ Quoted.curved (String.ofList cs))

/-- Letters of an order at the beginning of a description, and what follows them. -/
def lettersAt : Option Order → List Char → Option Order × List Char
  | o?, [] => (o?, [])
  | o?, c :: cs =>
    match (o?.getD Order.usual).add? c with
    | some o => lettersAt (some o) cs
    | none => (o?, c :: cs)

/-- Reads a description of a key. Without letters of its own it has the given order. -/
def readKey (given : Order) (text : String) : Except String Key := do
  let bad (what : String) : String := what ++ ": invalid field specification " ++ Quoted.curved text
  let (field, rest) ← countAt "invalid number at field start" text.toList
  if field == 0 then throw (bad "field number is zero")
  let (character, rest) ←
    match rest with
    | '.' :: rest => do
      let (n, rest) ← countAt "invalid number after '.'" rest
      if n == 0 then throw (bad "character offset is zero")
      pure (n - 1, rest)
    | rest => pure (0, rest)
  let (order?, rest) := lettersAt none rest
  match rest with
  | [] => return ⟨field - 1, character, none, false, order?.getD given⟩
  | ',' :: rest =>
    let (last, rest) ← countAt "invalid number after ','" rest
    if last == 0 then throw (bad "field number is zero")
    let (characters, rest) ←
      match rest with
      | '.' :: rest => countAt "invalid number after '.'" rest
      | rest => pure (0, rest)
    let (both?, rest) := lettersAt (order?.map fun o => { o with skipsBlanks := false }) rest
    if !rest.isEmpty then throw (bad "stray character in field spec")
    let atEnd := (both?.getD given).skipsBlanks
    let order := { both?.getD given with skipsBlanks := (order?.getD (if both?.isSome then Order.usual
      else given)).skipsBlanks }
    return ⟨field - 1, character, some (last - 1, characters), atEnd, order⟩
  | _ => throw (bad "stray character in field spec")

/-- The sorter that options ask for. -/
def sorterFor (given : Given) : Except String Sorter := do
  let order := given.options.foldl (fun o option => (o.add? option.1).getD o) Order.usual
  let keys ← (given.values 'k').mapM (readKey order)
  let keys := if keys.isEmpty && order != { Order.usual with reverses := order.reverses } then
      [⟨0, 0, none, false, order⟩]
    else keys
  let separator ←
    match given.value? 't' with
    | none => pure none
    | some "" => throw "empty tab"
    | some "\\0" => pure (some 0)
    | some t =>
      if t.length > 1 then throw ("multi-character tab " ++ Quoted.curved t)
      else pure ((Bytes.toBytes t).head?)
  return ⟨separator, keys, order.reverses, given.has 's', given.has 'u'⟩

/-- Checks that an input is in order. -/
def check (call : Call) (given : Given) (s : Sorter) (name : String) : Work Nat := do
  match ← slurp name with
  | .error fault =>
    complain call ("cannot read: " ++ Quoted.name name ++ ": " ++ fault.summary)
    return 2
  | .ok bytes =>
    match s.disorder? 1 ((linesOf bytes).map chomp) with
    | none => return 0
    | some (n, line) =>
      if given.last? ['c', 'C'] != some 'C' then
        complain call (name ++ ":" ++ toString n ++ ": disorder: " ++ Bytes.ofBytes line)
      return 1

/-- Reads all inputs, of which none may be missing. -/
def readLines (call : Call) : List String → Work (Option (List (List UInt8)))
  | [] => return some []
  | name :: names => do
    match ← slurp name with
    | .error fault =>
      let what := if fault == .isDirectory then "read failed: " else "cannot read: "
      complain call (what ++ Quoted.name name ++ ": " ++ fault.summary)
      return none
    | .ok bytes => return (← readLines call names).map (((linesOf bytes).map chomp) ++ ·)

/-- The options of the tool. -/
def spec : Options where
  letters := "bcCdfghik:mMno:rRsS:t:T:uVz"
  names :=
    [("ignore-leading-blanks", .nothing, 'b'), ("check", .optional, 'c'),
      ("dictionary-order", .nothing, 'd'), ("ignore-case", .nothing, 'f'),
      ("general-numeric-sort", .nothing, 'g'), ("human-numeric-sort", .nothing, 'h'),
      ("ignore-nonprinting", .nothing, 'i'), ("key", .required, 'k'), ("merge", .nothing, 'm'),
      ("month-sort", .nothing, 'M'), ("numeric-sort", .nothing, 'n'), ("output", .required, 'o'),
      ("reverse", .nothing, 'r'), ("stable", .nothing, 's'), ("field-separator", .required, 't'),
      ("unique", .nothing, 'u'), ("version-sort", .nothing, 'V'), ("zero-terminated", .nothing, 'z')]

end Sorting

/-- Writes lines in order. -/
def sort : Tool := fun _ call =>
  withOptions call Sorting.spec 2 fun given => do
    match Sorting.sorterFor given with
    | .error complaint =>
      complain call complaint
      return 2
    | .ok s =>
      if given.has 'c' || given.has 'C' then
        match given.operands with
        | _ :: extra :: _ =>
          complain call ("extra operand " ++ Quoted.shell extra ++ " not allowed with -c")
          return 2
        | operands => Sorting.check call given s (operands.headD "-")
      else
        match ← Sorting.readLines call (inputs given.operands) with
        | none => return 2
        | some lines =>
          let result := ((s.sort lines).map (· ++ [10])).flatten
          match given.value? 'o' with
          | none => put call result 0
          | some target =>
            match ← Work.ask (.open (pathOf target) .write) with
            | .error fault =>
              complain call ("open failed: " ++ Quoted.name target ++ ": " ++ fault.summary)
              return 2
            | .ok stream =>
              discard (Work.ask (.copy stream 1))
              put call result 0

end LintRoster.Machine.Tool
