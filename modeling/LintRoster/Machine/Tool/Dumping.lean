import LintRoster.Machine.Tool.Lines

/-!
# Bytes in other notations

Tools that write the bytes of their inputs as numbers or as names, or in an alphabet of sixty-four
letters, and that read the latter.
-/

namespace LintRoster.Machine.Tool

/-! ## Dumps -/

namespace Dump

/-- How some bytes are written together. -/
inductive Notation where
  | escaped
  | named
  | octal
  | hexadecimal
  | unsigned
  | signed
deriving DecidableEq

/-- A notation, how many bytes it takes together, and whether a line ends with them as characters. -/
structure Form where
  style : Notation
  size : Nat
  shows : Bool

/-- How wide a number is. -/
def Form.digits (f : Form) : Nat :=
  let bits := 8 * f.size
  let greatest := Nat.pow 2 bits
  match f.style with
  | .escaped | .named => 3
  | .octal => (bits + 2) / 3
  | .hexadecimal => 2 * f.size
  | .unsigned => (Nat.toDigits 10 greatest).length
  | .signed => (Nat.toDigits 10 (greatest / 2)).length + 1

/-- The names of the first bytes. -/
def controlNames : List String :=
  ["nul", "soh", "stx", "etx", "eot", "enq", "ack", "bel", "bs", "ht", "nl", "vt", "ff", "cr", "so",
    "si", "dle", "dc1", "dc2", "dc3", "dc4", "nak", "syn", "etb", "can", "em", "sub", "esc", "fs",
    "gs", "rs", "us", "sp"]

/-- The name of a byte, whose first bit does not count. -/
def nameOf (b : UInt8) : String :=
  let n := b.toNat % 128
  if n == 127 then "del" else controlNames.getD n (String.singleton (Char.ofNat n))

/-- Digits with zeros in front of them. -/
def padded (base count n : Nat) : String :=
  let ds := Nat.toDigits base n
  String.ofList (List.replicate (count - ds.length) '0' ++ ds)

/-- A byte as a character or as an escape. -/
def escapeOf (b : UInt8) : String :=
  if b == 0 then "\\0"
  else
    match Quoted.letter? (Bytes.charOf b) with
    | some c => "\\" ++ String.singleton c
    | none =>
      if 32 ≤ b && b < 127 then String.singleton (Bytes.charOf b) else padded 8 3 b.toNat

/-- The number of bytes of which the last one counts most. -/
def numberOf (bytes : List UInt8) : Nat :=
  bytes.foldr (fun b n => n * 256 + b.toNat) 0

/-- Some bytes in a notation. -/
def Form.text (f : Form) (bytes : List UInt8) : String :=
  let n := numberOf bytes
  match f.style with
  | .escaped => escapeOf (bytes.headD 0)
  | .named => nameOf (bytes.headD 0)
  | .octal => padded 8 f.digits n
  | .hexadecimal => padded 16 f.digits n
  | .unsigned => toString n
  | .signed =>
    let greatest := Nat.pow 2 (8 * f.size)
    if 2 * n < greatest then toString n else "-" ++ toString (greatest - n)

/-- A list in pieces of a size. -/
def pieces {α : Type} (size : Nat) : Nat → List α → List (List α)
  | 0, _ => []
  | _, [] => []
  | fuel + 1, as => as.take size :: pieces size fuel (as.drop size)

/-- How wide a line of `perLine` bytes is at least. -/
def Form.lineWidth (f : Form) (perLine : Nat) : Nat :=
  (f.digits + 1) * (perLine / f.size)

/-- The bytes of a line in a notation, where a full line has `perLine` bytes and is `width` wide. What
is left of the width is spread over the fields. -/
def Form.line (f : Form) (width perLine : Nat) (bytes : List UInt8) : String :=
  let count := perLine / f.size
  let spare := width - f.lineWidth perLine
  let share (left : Nat) : Nat := spare * left / count
  let field (i : Nat) (text : String) : String :=
    let room := f.digits + 1 + share (count - i) - share (count - i - 1)
    String.ofList (List.replicate (room - text.length) ' ') ++ text
  let fields := (pieces f.size bytes.length bytes).mapIdx fun i p => field i (f.text p)
  let text := String.join fields
  if !f.shows then text
  else
    let missing := width - text.length
    let shown (b : UInt8) : Char := if 32 ≤ b && b < 127 then Bytes.charOf b else '.'
    text ++ String.ofList (List.replicate missing ' ') ++ "  >" ++
      String.ofList (bytes.map shown) ++ "<"

/-- How a dump is laid out. -/
structure Layout where
  /-- The base of offsets, and how many digits they have. -/
  offsets : Option (Nat × Nat)
  forms : List Form
  perLine : Nat
  showsAll : Bool
  /-- How many bytes are passed over. -/
  skipped : Nat
  /-- How many bytes are written at most. -/
  most : Option Nat
  /-- What is to be said of a line's width that does not fit the forms. -/
  warning? : Option String

/-- An offset. -/
def Layout.offset (l : Layout) (n : Nat) : String :=
  match l.offsets with
  | none => ""
  | some (base, digits) => padded base digits n

/-- A line of bytes at an offset. -/
def Layout.line (l : Layout) (offset : Nat) (bytes : List UInt8) : String :=
  let width := (l.forms.map fun f => f.lineWidth l.perLine).foldl max 0
  let front := l.offset offset
  let gap := String.ofList (List.replicate front.length ' ')
  let rows := l.forms.map fun f => f.line width l.perLine bytes
  match rows with
  | [] => front ++ "\n"
  | row :: more => String.join ((front ++ row) :: more.map fun r => "\n" ++ gap ++ r) ++ "\n"

/-- Lines of bytes from an offset on, behind one that was written or left out. -/
def Layout.lines (l : Layout) :
    Nat → List (List UInt8) → Option (List UInt8) → Bool → List String
  | _, [], _, _ => []
  | offset, piece :: rest, before, isLeftOut =>
    let isSame := !l.showsAll && before == some piece && !rest.isEmpty
    let next := l.lines (offset + piece.length) rest (some piece)
    if isSame then (if isLeftOut then [] else ["*\n"]) ++ next true
    else l.line offset piece :: next false

/-- A dump of bytes from an offset on. -/
def Layout.text (l : Layout) (offset : Nat) (bytes : List UInt8) : String :=
  let last := l.offset (offset + bytes.length)
  String.join (l.lines offset (pieces l.perLine bytes.length bytes) none false) ++
    if last == "" then "" else last ++ "\n"

/-- The forms that a word asks for. -/
def formsOf (word : String) : Nat → List Char → Except String (List Form)
  | 0, _ => .ok []
  | _, [] => .ok []
  | fuel + 1, c :: cs => do
    let bad {α : Type} : Except String α :=
      .error ("invalid character '" ++ String.singleton c ++ "' in type string " ++ Quoted.curved word)
    let sized : Except String (Nat × List Char) :=
      let ds := cs.takeWhile Char.isDigit
      match cs with
      | 'C' :: rest => .ok (1, rest)
      | 'S' :: rest => .ok (2, rest)
      | 'I' :: rest => .ok (4, rest)
      | 'L' :: rest => .ok (8, rest)
      | _ =>
        match Text.natural? 10 ds with
        | none => .ok (4, cs)
        | some n =>
          if [1, 2, 4, 8].contains n then .ok (n, cs.drop ds.length)
          else
            .error ("invalid type string " ++ Quoted.curved word ++ ";\nthis system doesn't provide a " ++
              toString n ++ "-byte integral type")
    let (style, size, rest) ←
      match c with
      | 'a' => pure (Notation.named, 1, cs)
      | 'c' => pure (Notation.escaped, 1, cs)
      | 'o' | 'x' | 'u' | 'd' => do
        let (size, rest) ← sized
        let style :=
          if c == 'o' then Notation.octal
          else if c == 'x' then .hexadecimal
          else if c == 'u' then .unsigned
          else .signed
        pure (style, size, rest)
      | _ => bad
    let shows := rest.head? == some 'z'
    let more ← formsOf word fuel (if shows then rest.drop 1 else rest)
    return ⟨style, size, shows⟩ :: more

/-- The words for forms that letters stand for. -/
def shortForms : List (Char × String) :=
  [('a', "a"), ('b', "o1"), ('c', "c"), ('d', "u2"), ('h', "x2"), ('i', "dI"), ('l', "dL"),
    ('o', "o2"), ('s', "d2"), ('x', "x2"), ('X', "x4"), ('D', "u4"), ('O', "o4")]

/-- The layout that options ask for. -/
def layoutOf (given : Given) : Except String Layout := do
  let offsets ←
    match (given.value? 'A').map String.toList with
    | none | some ('o' :: _) => pure (some (8, 7))
    | some ('d' :: _) => pure (some (10, 7))
    | some ('x' :: _) => pure (some (16, 6))
    | some ('n' :: _) => pure none
    | some cs =>
      throw ("invalid output address radix '" ++ String.singleton (cs.headD '\x00') ++
        "'; it must be one character from [doxn]")
  let words := given.options.filterMap fun o =>
    if o.1 == 't' then some o.2 else shortForms.lookup o.1
  let forms ← (if words.isEmpty then ["o2"] else words).mapM fun w => formsOf w w.length w.toList
  let forms := forms.flatten
  let widest := (forms.map Form.size).foldl max 1
  let number? (letter : Char) (fallback : Nat) : Except String Nat :=
    match given.value? letter with
    | none => .ok fallback
    | some "" => .ok 32
    | some w =>
      match amountOf? w with
      | some n => .ok n
      | none => .error ("invalid -" ++ String.singleton letter ++ " argument '" ++ w ++ "'")
  let skipped ← number? 'j' 0
  let most ← (given.value? 'N').mapM fun _ => number? 'N' 0
  let width ← number? 'w' 16
  let isFit := 0 < width && width % widest == 0
  let warning? :=
    if isFit then none
    else
      some ("warning: invalid width " ++ toString width ++ "; using " ++ toString widest ++ " instead")
  return ⟨offsets, forms, if isFit then width else widest, given.has 'v', skipped, most, warning?⟩

end Dump

/-- Reads inputs one after the other to their ends. Also tells whether all of them could be read. -/
def readWhole (call : Call) : List String → Work (List UInt8 × Bool)
  | [] => return ([], true)
  | name :: names => do
    match ← slurp name with
    | .error fault =>
      complain call (Quoted.name name ++ ": " ++ fault.summary)
      return ((← readWhole call names).1, false)
    | .ok bytes =>
      let (more, isWhole) ← readWhole call names
      return (bytes ++ more, isWhole)

/-- Writes bytes as numbers or as names. -/
def od : Tool := fun _ call =>
  withOptions call {
      letters := "A:aBbcDdeFfHhIij:LlN:OoS:st:vw::Xx"
      names :=
        [("skip-bytes", .required, 'j'), ("address-radix", .required, 'A'),
          ("read-bytes", .required, 'N'), ("format", .required, 't'),
          ("output-duplicates", .nothing, 'v'), ("width", .optional, 'w')] } 1
    fun given => do
      match Dump.layoutOf given with
      | .error complaint =>
        complain call complaint
        return 1
      | .ok layout =>
        layout.warning?.forM (complain call)
        let (bytes, isWhole) ← readWhole call (inputs given.operands)
        if bytes.length < layout.skipped then
          complain call "cannot skip past end of combined input"
          return 1
        let bytes := bytes.drop layout.skipped
        let bytes := (layout.most.map bytes.take).getD bytes
        if !isWhole && bytes.isEmpty then return 1
        else say call (layout.text layout.skipped bytes) (if isWhole then 0 else 1)

/-! ## Sixty-four letters -/

namespace Base64

/-- The letters, in the order of their values. -/
def alphabet : List Char :=
  "ABCDEFGHIJKLMNOPQRSTUVWXYZabcdefghijklmnopqrstuvwxyz0123456789+/".toList

/-- The letters of bytes, four for each three of them. -/
def encode : List UInt8 → List Char
  | a :: b :: c :: rest =>
    let n := (a.toNat * 256 + b.toNat) * 256 + c.toNat
    letter (n / 262144) :: letter (n / 4096) :: letter (n / 64) :: letter n :: encode rest
  | [a, b] =>
    let n := (a.toNat * 256 + b.toNat) * 4
    [letter (n / 4096), letter (n / 64), letter n, '=']
  | [a] =>
    let n := a.toNat * 16
    [letter (n / 64), letter n, '=', '=']
  | [] => []
where
  /-- The letter of a value, of which only the last six bits count. -/
  letter (n : Nat) : Char :=
    alphabet.getD (n % 64) 'A'

/-- The value of a letter. -/
def value? (c : Char) : Option Nat :=
  alphabet.findIdx? (· == c)

/-- The bytes of letters, as far as they are well-formed, and whether they are to the end. -/
def decodeFrom : Nat → List (List UInt8) → List Char → List UInt8 × Bool
  | 0, done, _ => (done.reverse.flatten, false)
  | _, done, [] => (done.reverse.flatten, true)
  | fuel + 1, done, cs =>
    let values := (cs.take 4).map value?
    let byte (n : Nat) : UInt8 := UInt8.ofNat (n % 256)
    let finish (more : List UInt8) (isWhole : Bool) : List UInt8 × Bool :=
      ((more :: done).reverse.flatten, isWhole)
    match values, (cs.take 4).drop 2 with
    | [some a, some b, some c, some d], _ =>
      let n := ((a * 64 + b) * 64 + c) * 64 + d
      decodeFrom fuel ([byte (n / 65536), byte (n / 256), byte n] :: done) (cs.drop 4)
    | [some a, some b, some c, none], [_, '='] =>
      let n := ((a * 64 + b) * 64 + c) / 4
      decodeFrom fuel ([byte (n / 256), byte n] :: done) (cs.drop 4)
    | [some a, some b, none, none], ['=', '='] =>
      decodeFrom fuel ([byte ((a * 64 + b) / 16)] :: done) (cs.drop 4)
    | some a :: some b :: some c :: _, _ =>
      let n := ((a * 64 + b) * 64 + c) / 4
      finish [byte (n / 256), byte n] false
    | some a :: some b :: _, _ => finish [byte ((a * 64 + b) / 16)] false
    | _, _ => finish [] false

/-- Letters in lines of a width. A width of zero asks for a single line without an end. -/
def wrapped (width : Nat) (cs : List Char) : String :=
  if width == 0 then String.ofList cs
  else String.join ((Dump.pieces width cs.length cs).map fun line => String.ofList line ++ "\n")

end Base64

/-- Writes bytes in sixty-four letters, or bytes that were written so. -/
def base64 : Tool := fun _ call =>
  withOptions call {
      letters := "diw:"
      names :=
        [("decode", .nothing, 'd'), ("ignore-garbage", .nothing, 'i'), ("wrap", .required, 'w')] } 1
    fun given => do
      match given.operands, (given.value? 'w').map String.toNat? with
      | _, some none =>
        complain call ("invalid wrap size: " ++ Quoted.curved ((given.value? 'w').getD ""))
        return 1
      | _ :: extra :: _, _ => misused call 1 ("extra operand " ++ Quoted.curved extra)
      | operands, width => do
        let name := operands.headD "-"
        match ← slurp name with
        | .error fault =>
          complain call (Quoted.name name ++ ": " ++ fault.summary)
          return 1
        | .ok bytes =>
          if !given.has 'd' then
            say call (Base64.wrapped (width.join.getD 76) (Base64.encode bytes)) 0
          else
            let cs := (bytes.filter (· != 10)).map Bytes.charOf
            let isLetter (c : Char) : Bool := (Base64.value? c).isSome || c == '='
            let cs := if given.has 'i' then cs.filter isLetter else cs
            let (decoded, isWhole) := Base64.decodeFrom (cs.length + 1) [] cs
            let status ← put call decoded 0
            if isWhole then return status
            else
              complain call "invalid input"
              return 1

end LintRoster.Machine.Tool
