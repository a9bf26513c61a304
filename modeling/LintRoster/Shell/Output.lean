import LintRoster.Decimal.Rounded
import LintRoster.Decimal.Scan
import LintRoster.Shell.Numeral

/-!
# Formatted output of the shell

The texts that the commands `echo` and `printf` write. Escapes stand for control characters and for
bytes by their octal numbers. Texts are byte texts, so the result need not be UTF-8.
-/

namespace LintRoster.Shell.Output

/-! ## Escapes -/

/-- Whether a character is an octal digit. -/
def isOctal (c : Char) : Bool :=
  '0' ≤ c && c ≤ '7'

/-- The character of up to three octal digits, and what follows them. -/
def octal (cs : List Char) : Char × List Char :=
  let ds := (cs.take 3).takeWhile isOctal
  let n := ds.foldl (fun n c => n * 8 + (c.toNat - 0x30)) 0
  (Char.ofNat (n % 256), cs.drop ds.length)

/-- The character of an escape of one letter. -/
def letter? : Char → Option Char
  | 'a' => some '\x07'
  | 'b' => some '\x08'
  | 'e' => some '\x1b'
  | 'f' => some '\x0c'
  | 'n' => some '\n'
  | 'r' => some '\r'
  | 't' => some '\t'
  | 'v' => some '\x0b'
  | '\\' => some '\\'
  | _ => none

/-- The character of an escape after its backslash, and what follows. A backslash that begins no
escape stands for itself. -/
def escape (cs : List Char) : Char × List Char :=
  match cs with
  | [] => ('\\', [])
  | c :: rest =>
    if isOctal c then octal cs
    else
      match letter? c with
      | some d => (d, rest)
      | none => ('\\', cs)

/-- A text with its escapes replaced, after the characters in `before`, last first. Tells whether the
text asks to stop there. -/
def unescapedFrom : Nat → List Char → List Char → List Char × Bool
  | 0, before, _ => (before.reverse, false)
  | _, before, [] => (before.reverse, false)
  | fuel + 1, before, '\\' :: rest =>
    match rest with
    | 'c' :: _ => (before.reverse, true)
    | '0' :: d :: more =>
      let (c, rest) := escape (if isOctal d then d :: more else rest)
      unescapedFrom fuel (c :: before) rest
    | rest =>
      let (c, rest) := escape rest
      unescapedFrom fuel (c :: before) rest
  | fuel + 1, before, c :: rest => unescapedFrom fuel (c :: before) rest

/-- A text with its escapes replaced, and whether it asks to stop there. -/
def unescaped (s : String) : String × Bool :=
  let (cs, stops) := unescapedFrom (s.length + 1) [] s.toList
  (String.ofList cs, stops)

/-! ## The command `echo` -/

/-- Words with their escapes replaced, up to one that asks to stop. -/
def echoWords (ending : String) : List String → String
  | [] => ending
  | w :: ws =>
    match unescaped w with
    | (s, true) => s
    | (s, false) => if ws.isEmpty then s ++ ending else s ++ " " ++ echoWords ending ws

/-- What `echo` writes. -/
def echo : List String → String
  | "-n" :: words => echoWords "" words
  | words => echoWords "\n" words

/-! ## Formats -/

/-- A number in a format, which may be left to the arguments. -/
inductive Size where
  | given (n : Option Nat)
  | argument
deriving DecidableEq, Repr

/-- A conversion as a format has it: its text, the signs that change it, its width, its precision and
its letter. -/
structure Directive where
  text : String
  flags : List Char
  width : Size
  precision : Size
  letter : Char
deriving DecidableEq, Repr

/-- A piece of a format. -/
inductive Piece where
  | char (c : Char)
  | directive (d : Directive)
  /-- A percent sign without a letter. -/
  | unfinished
deriving DecidableEq, Repr

/-- The size at the front of a part of a format, and what follows it. -/
def size (cs : List Char) : Size × List Char :=
  match cs with
  | '*' :: rest => (.argument, rest)
  | cs =>
    let ds := cs.takeWhile Char.isDigit
    (.given (Text.natural? 10 ds), cs.dropWhile Char.isDigit)

/-- Reads a conversion after its percent sign. -/
def directive? (cs : List Char) : Option (Directive × List Char) :=
  let isFlag (c : Char) : Bool := ['#', '-', '+', ' ', '0'].contains c
  let flags := cs.takeWhile isFlag
  let (width, rest) := size (cs.dropWhile isFlag)
  let (precision, rest) :=
    match rest with
    | '.' :: rest =>
      match size rest with
      | (.given none, rest) => (Size.given (some 0), rest)
      | found => found
    | rest => (.given none, rest)
  match rest with
  | [] => none
  | c :: after =>
    let text := String.ofList ('%' :: cs.take (cs.length - after.length))
    some (⟨text, flags, width, precision, c⟩, after)

/-- The pieces of a format. -/
def pieces : Nat → List Char → List Piece
  | 0, _ => []
  | _, [] => []
  | fuel + 1, '\\' :: rest =>
    let (c, rest) := escape rest
    .char c :: pieces fuel rest
  | fuel + 1, '%' :: '%' :: rest => .char '%' :: pieces fuel rest
  | fuel + 1, '%' :: rest =>
    match directive? rest with
    | some (d, rest) => .directive d :: pieces fuel rest
    | none => [.unfinished]
  | fuel + 1, c :: rest => .char c :: pieces fuel rest

/-! ## Numbers among the arguments -/

/-- A number that was read from an argument, with what is wrong with it. -/
structure Operand (α : Type) where
  value : α
  complaint : Option String

/-- What is wrong with an argument of which a rest was not read. -/
def complaint? (arg : String) (rest : List Char) (fits : Bool) : Option String :=
  if !rest.isEmpty then
    if rest.length == arg.length then some (arg ++ ": expected numeric value")
    else some (arg ++ ": not completely converted")
  else if fits then none
  else some (arg ++ ": Numerical result out of range")

/-- The number of the character after a quote, if an argument begins with one. -/
def quoted? (arg : String) : Option Nat :=
  match arg.toList with
  | '\'' :: rest | '"' :: rest => some ((rest.head?.map Char.toNat).getD 0)
  | _ => none

/-- The integer that an argument stands for. -/
def integer (arg : String) : Operand Int :=
  match quoted? arg with
  | some n => ⟨n, none⟩
  | none =>
    let n := Numeral.scan true arg.toList
    if n.hasDigits then ⟨n.value, complaint? arg n.rest n.fits⟩
    else ⟨0, complaint? arg arg.toList true⟩

/-- The greatest natural number of 64 bits. -/
def greatest : Nat :=
  Nat.pow 2 64 - 1

/-- The natural number of 64 bits that an argument stands for. Negative ones wrap around. -/
def natural (arg : String) : Operand Nat :=
  match quoted? arg with
  | some n => ⟨n, none⟩
  | none =>
    let cs := arg.toList.dropWhile Numeral.isBlank
    let (negative, cs) :=
      match cs with
      | '-' :: cs => (true, cs)
      | '+' :: cs => (false, cs)
      | cs => (false, cs)
    let (base, ds) := Numeral.announced cs
    let (n, rest) := Numeral.digits base 0 ds
    if rest.length == ds.length then ⟨0, complaint? arg arg.toList true⟩
    else if n > greatest then ⟨greatest, complaint? arg rest false⟩
    else ⟨if negative then (greatest + 1 - n) % (greatest + 1) else n, complaint? arg rest true⟩

/-- The number with a fraction that an argument stands for, and its sign. -/
def fraction (arg : String) : Operand (Bool × Binary64) :=
  match quoted? arg with
  | some n => ⟨(false, .ofDecimal false n 0), none⟩
  | none =>
    match ScannedNumber.scan? arg.toList with
    | some n => ⟨(n.negative, n.value), complaint? arg n.rest n.fits⟩
    | none => ⟨(false, .ofDecimal false 0 0), complaint? arg arg.toList true⟩

/-! ## Conversions -/

/-- A conversion whose sizes are known. -/
structure Conversion where
  left : Bool
  zeros : Bool
  plus : Bool
  space : Bool
  alternate : Bool
  width : Nat
  precision : Option Nat
  letter : Char
deriving DecidableEq, Repr

/-- A text filled up to the width of a conversion. -/
def pad (c : Conversion) (text : List Char) : List Char :=
  let blanks := List.replicate (c.width - text.length) ' '
  if c.left then text ++ blanks else blanks ++ text

/-- Digits behind their sign, with zeros between them where a conversion asks for that. -/
def padNumber (c : Conversion) (zeros : Bool) (sign digits : List Char) : List Char :=
  let missing := if zeros && !c.left then c.width - sign.length - digits.length else 0
  pad c (sign ++ List.replicate missing '0' ++ digits)

/-- The sign of a number. -/
def signOf (c : Conversion) (negative : Bool) : List Char :=
  if negative then ['-'] else if c.plus then ['+'] else if c.space then [' '] else []

/-- Digits filled up to the precision of a conversion. -/
def withPrecision (c : Conversion) (ds : List Char) : List Char :=
  match c.precision with
  | none => ds
  | some p => if ds == ['0'] then List.replicate p '0' else List.replicate (p - ds.length) '0' ++ ds

/-- A natural number in a base. -/
def unsignedText (c : Conversion) (base : Nat) (n : Nat) : List Char :=
  let ds := withPrecision c (Nat.toDigits base n)
  let ds := if c.letter == 'X' then ds.map Char.toUpper else ds
  let ds := if base == 8 && c.alternate && ds.head? != some '0' then '0' :: ds else ds
  let front := if base == 16 && c.alternate && n != 0 then ['0', c.letter] else []
  padNumber c (c.zeros && c.precision.isNone) front ds

/-- An integer. -/
def signedText (c : Conversion) (n : Int) : List Char :=
  let ds := withPrecision c (Nat.toDigits 10 n.natAbs)
  padNumber c (c.zeros && c.precision.isNone) (signOf c (n < 0)) ds

/-- The style of a letter. -/
def styleOf : Char → NumberStyle
  | 'e' => .scientific
  | 'g' => .general
  | 'a' => .hexadecimal
  | _ => .fixed

/-- A number with a fraction. -/
def fractionText (c : Conversion) (negative : Bool) (x : Binary64) : List Char :=
  let sign := signOf c negative
  let cased (cs : List Char) : List Char := if c.letter.isUpper then cs.map Char.toUpper else cs
  match x with
  | .nan => pad c (sign ++ cased ['n', 'a', 'n'])
  | .infinite _ => pad c (sign ++ cased ['i', 'n', 'f'])
  | .finite _ m =>
    let style := styleOf c.letter.toLower
    let text := style.text c.alternate c.precision m
    if style == .hexadecimal then
      padNumber c c.zeros (sign ++ cased (text.take 2)) (cased (text.drop 2))
    else padNumber c c.zeros sign (cased text)

/-! ## The command `printf` -/

/-- What was written, last character first, with the arguments that are left. -/
structure Writing where
  text : List Char
  complaints : List String
  arguments : List String
  stops : Bool
  fault : Option String

namespace Writing

/-- Takes the next argument. -/
def takeArgument (w : Writing) : Option String × Writing :=
  (w.arguments.head?, { w with arguments := w.arguments.drop 1 })

/-- Adds a text. -/
def add (cs : List Char) (w : Writing) : Writing :=
  { w with text := cs.reverse ++ w.text }

/-- Takes the next argument as a number. -/
def takeOperand {α : Type} (read : String → Operand α) (usual : α) (w : Writing) : α × Writing :=
  match w.takeArgument with
  | (none, w) => (usual, w)
  | (some arg, w) =>
    let operand := read arg
    (operand.value, { w with complaints := w.complaints ++ operand.complaint.toList })

/-- The number that a size stands for. -/
def takeSize (size : Size) (w : Writing) : Option Int × Writing :=
  match size with
  | .given n => (n.map Int.ofNat, w)
  | .argument =>
    let (n, w) := w.takeOperand integer 0
    (some n, w)

/-- Ends the writing because of a fault. -/
def fail (message : String) (w : Writing) : Writing :=
  { w with stops := true, fault := some message }

/-- Writes a conversion of the next argument. -/
def convert (text : String) (c : Conversion) (w : Writing) : Writing :=
  let cut (cs : List Char) : List Char := (c.precision.map cs.take).getD cs
  match c.letter with
  | 's' =>
    let (arg, w) := w.takeArgument
    w.add (pad c (cut (arg.getD "").toList))
  | 'b' =>
    let (arg, w) := w.takeArgument
    let (s, stops) := unescaped (arg.getD "")
    { w.add (pad c (cut s.toList)) with stops }
  | 'c' =>
    let (arg, w) := w.takeArgument
    w.add (pad c [((arg.getD "").toList.head?).getD '\x00'])
  | 'd' | 'i' =>
    let (n, w) := w.takeOperand integer 0
    w.add (signedText c n)
  | 'u' =>
    let (n, w) := w.takeOperand natural 0
    w.add (unsignedText c 10 n)
  | 'o' =>
    let (n, w) := w.takeOperand natural 0
    w.add (unsignedText c 8 n)
  | 'x' | 'X' =>
    let (n, w) := w.takeOperand natural 0
    w.add (unsignedText c 16 n)
  | letter =>
    if ['a', 'A', 'e', 'E', 'f', 'F', 'g', 'G'].contains letter then
      let ((negative, x), w) := w.takeOperand fraction (false, .ofDecimal false 0 0)
      w.add (fractionText c negative x)
    else w.fail (text ++ ": invalid directive")

/-- Writes a piece of a format. -/
def step (w : Writing) (p : Piece) : Writing :=
  if w.stops then w
  else
    match p with
    | .char c => w.add [c]
    | .unfinished => w.fail "missing format character"
    | .directive d =>
      let (width, w) := w.takeSize d.width
      let (precision, w) := w.takeSize d.precision
      let width := width.getD 0
      w.convert d.text {
        left := d.flags.contains '-' || width < 0
        zeros := d.flags.contains '0'
        plus := d.flags.contains '+'
        space := d.flags.contains ' '
        alternate := d.flags.contains '#'
        width := width.natAbs
        precision := (precision.filter fun p => 0 ≤ p).map Int.toNat
        letter := d.letter }

/-- Writes a format until no arguments are left. -/
def rounds (ps : List Piece) : Nat → Writing → Writing
  | 0, w => w
  | fuel + 1, w =>
    let after := ps.foldl step w
    if after.stops || after.arguments.isEmpty || after.arguments.length == w.arguments.length then
      after
    else rounds ps fuel after

end Writing

/-- What `printf` writes. -/
def printf (format : String) (arguments : List String) : Writing :=
  let ps := pieces (format.length + 1) format.toList
  Writing.rounds ps (arguments.length + 1) ⟨[], [], arguments, false, none⟩

end LintRoster.Shell.Output
