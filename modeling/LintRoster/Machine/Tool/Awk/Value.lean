import LintRoster.Decimal.Float
import LintRoster.Decimal.Scan
import LintRoster.Machine.Tool.Awk.Script
import LintRoster.Shell.Output

/-!
# Values of scripts for records

A value is a number or a text, and each can be taken for the other. A text that was read counts as a
number where it looks like one.
-/

namespace LintRoster.Machine.Tool.Awk

/-- A value. -/
inductive Value where
  | unset
  | number (x : Float)
  | text (s : String)
  /-- A text that was read. -/
  | given (s : String)

instance : Inhabited Value :=
  ⟨.unset⟩

/-! ## Numbers in texts -/

/-- Whether a character is a blank. -/
def isBlank (c : Char) : Bool :=
  c == ' ' || (9 ≤ c.toNat && c.toNat ≤ 13)

/-- The number that a text begins with, or zero. -/
def numberOf (s : String) : Float :=
  ((ScannedNumber.scan? s.toList).map fun n => n.value.toFloat).getD 0

/-- The number that a text is in decimal digits, apart from blanks around it. -/
def wholeNumber? (s : String) : Option Float :=
  let read (negative : Bool) (cs : List Char) : Option Float :=
    match ScannedNumber.decimal? negative cs with
    | some n => if n.rest.all isBlank then some n.value.toFloat else none
    | none => none
  match s.toList.dropWhile isBlank with
  | '-' :: cs => read true cs
  | '+' :: cs => read false cs
  | cs => read false cs

/-! ## Texts for numbers -/

/-- The integers that can be written out. -/
def integerText? (x : Float) : Option String :=
  match (Binary64.ofFloat x).integer? with
  | none => none
  | some n =>
    let limit := Nat.pow 2 64
    if -(Int.ofNat (limit / 2)) ≤ n && n ≤ limit then some (toString (min n (Int.ofNat (limit - 1)))) else none

/-- A conversion with nothing special about it. -/
def plainConversion (letter : Char) : Shell.Output.Conversion :=
  ⟨false, false, false, false, false, 0, none, letter⟩

/-- A number with a fraction in a conversion. What is no number is written as a negative one. -/
def fractionText (c : Shell.Output.Conversion) (x : Float) : List Char :=
  let isNegative := Nat.pow 2 63 ≤ x.toBits.toNat || x.isNaN
  Shell.Output.fractionText c isNegative (Binary64.ofFloat x)

/-- A number as an integer of 64 bits, as a conversion shows it. Greater ones are cut off. -/
def wholePart (x : Float) : Int :=
  let limit := Int.ofNat (Nat.pow 2 63)
  match Binary64.ofFloat x with
  | .nan => -limit
  | .infinite negative => if negative then 1 - limit else 2 * limit - 1
  | x =>
    let n := (x.truncated?).getD 0
    if n < -limit then 1 - limit else min n (2 * limit - 1)

/-- A number as a natural number of 64 bits. Negative ones wrap around. -/
def naturalPart (x : Float) : Nat :=
  (wholePart x % Int.ofNat (Nat.pow 2 64)).toNat

/-! ## Formats -/

/-- What keeps a format from being carried out. -/
inductive FormatFault where
  | tooFewArguments
  /-- There is no such conversion. They are counted from one. -/
  | unknown (count : Nat)

/-- A fault in words, for a function with a format. -/
def FormatFault.text (function format : String) : FormatFault → String
  | tooFewArguments => "not enough arguments passed to " ++ function ++ "(\"" ++ format ++ "\")"
  | unknown count =>
    "improper conversion(number " ++ toString count ++ ") in " ++ function ++ "(\"" ++ format ++ "\")"

/-- A number of a format that may be left to the arguments, as far as it is there, with the arguments
that are left. -/
def sizeOf (size : Shell.Output.Size) (numbers : Value → Float) (arguments : List Value) :
    Except FormatFault (Option Int × List Value) :=
  match size, arguments with
  | .given n, arguments => .ok (n.map Int.ofNat, arguments)
  | .argument, value :: arguments => .ok (some (wholePart (numbers value)), arguments)
  | .argument, [] => .error .tooFewArguments

/-- A format with values in the place of its conversions, after what is there already, last first.
Also tells what is wrong with it. -/
def formatFrom (texts : Value → String) (numbers : Value → Float) :
    Nat → Nat → List Char → List Value → List (List Char) → List Char × Option FormatFault
  | 0, _, _, _, done => (done.reverse.flatten, none)
  | fuel + 1, count, cs, arguments, done =>
    let go := formatFrom texts numbers fuel
    let stop (fault : FormatFault) : List Char × Option FormatFault := (done.reverse.flatten, some fault)
    match cs with
    | [] => (done.reverse.flatten, none)
    | '%' :: '%' :: rest => go (count + 1) rest arguments (['%'] :: done)
    | '%' :: rest =>
      if arguments.isEmpty then stop .tooFewArguments
      else
        let isLength (c : Char) : Bool := c == 'l' || c == 'h'
        let head := rest.takeWhile fun c => !c.isAlpha && c != '%'
        match Shell.Output.directive? (head ++ (rest.drop head.length).dropWhile isLength) with
        | none => stop (.unknown (count + 1))
        | some (d, rest) =>
          match sizeOf d.width numbers arguments with
          | .error fault => stop fault
          | .ok (width, arguments) =>
            match sizeOf d.precision numbers arguments with
            | .error fault => stop fault
            | .ok (precision, arguments) =>
              let width := width.getD 0
              let c : Shell.Output.Conversion := {
                left := d.flags.contains '-' || width < 0
                zeros := d.flags.contains '0'
                plus := d.flags.contains '+'
                space := d.flags.contains ' '
                alternate := d.flags.contains '#'
                width := width.natAbs
                precision := (precision.filter fun p => 0 ≤ p).map Int.toNat
                letter := d.letter }
              let cut (cs : List Char) : List Char := (c.precision.map cs.take).getD cs
              match arguments with
              | [] => stop .tooFewArguments
              | value :: arguments =>
                let add (cs : List Char) := go (count + 1) rest arguments (cs :: done)
                match d.letter with
                | 'd' | 'i' => add (Shell.Output.signedText c (wholePart (numbers value)))
                | 'u' => add (Shell.Output.unsignedText c 10 (naturalPart (numbers value)))
                | 'o' => add (Shell.Output.unsignedText c 8 (naturalPart (numbers value)))
                | 'x' | 'X' => add (Shell.Output.unsignedText c 16 (naturalPart (numbers value)))
                | 'c' =>
                  match value with
                  | .number x => add (Shell.Output.pad c [Char.ofNat (naturalPart x % 256)])
                  | value => add (Shell.Output.pad c [((texts value).toList.head?).getD '\x00'])
                | 's' => add (Shell.Output.pad c (cut (texts value).toList))
                | letter =>
                  if ['a', 'A', 'e', 'E', 'f', 'F', 'g', 'G'].contains letter then
                    add (fractionText c (numbers value))
                  else stop (.unknown (count + 1))
    | c :: rest =>
      let plain := rest.takeWhile (· != '%')
      go count (rest.drop plain.length) arguments ((c :: plain) :: done)

/-! ## Values as numbers and texts -/

/-- A number in the format that a script prescribes for numbers. -/
def textOf (format : String) (x : Float) : String :=
  match integerText? x with
  | some s => s
  | none =>
    if format == "%.6g" then String.ofList (fractionText { plainConversion 'g' with precision := some 6 } x)
    else
      let (cs, _) := formatFrom (fun _ => "") (fun _ => x) (format.length + 1) 0 format.toList [.number x] []
      String.ofList cs

namespace Value

/-- A value as a number. -/
def toNumber : Value → Float
  | unset => 0
  | number x => x
  | text s | given s => numberOf s

/-- A value as a text, with a format for numbers. -/
def toText (format : String) : Value → String
  | unset => ""
  | number x => textOf format x
  | text s | given s => s

/-- The number that a value counts as in comparisons, if it does. -/
def counted? : Value → Option Float
  | unset => some 0
  | number x => some x
  | text _ => none
  | given s => wholeNumber? s

/-- Whether a value counts as true. -/
def isTrue : Value → Bool
  | unset => false
  | number x => x != 0
  | text s => s != ""
  | given s =>
    match wholeNumber? s with
    | some x => x != 0
    | none => s != ""

/-- The value for a truth. -/
def ofBool (b : Bool) : Value :=
  .number (if b then 1 else 0)

/-- Whether a comparison of values holds. Texts are compared by their bytes. -/
def compare (format : String) (c : Comparison) (a b : Value) : Bool :=
  match a.counted?, b.counted? with
  | some x, some y =>
    match c with
    | .less => x < y
    | .lessEqual => x ≤ y
    | .equal => x == y
    | .unequal => x != y
    | .greater => y < x
    | .greaterEqual => y ≤ x
  | _, _ =>
    let s := a.toText format
    let t := b.toText format
    match c with
    | .less => s < t
    | .lessEqual => !(t < s)
    | .equal => s == t
    | .unequal => s != t
    | .greater => t < s
    | .greaterEqual => !(s < t)

end Value

/-- What a calculation gives. -/
def Operation.apply (o : Operation) (x y : Float) : Float :=
  match o with
  | add => x + y
  | subtract => x - y
  | multiply => x * y
  | divide => x / y
  | remainder => remainderOf x y
  | power => x.pow y
where
  /-- What is left of a number after it was divided as often as possible. It has the sign of the
  number. -/
  remainderOf (x y : Float) : Float :=
    match Binary64.ofFloat x, Binary64.ofFloat y with
    | .finite negative m, .finite _ n =>
      if n.mantissa == 0 then 0.0 / 0.0
      else
        let e := min m.exponent n.exponent
        let scaled (k : Magnitude) : Nat := k.mantissa * Nat.pow 2 (k.exponent - e).toNat
        let rest := (Float.ofNat (scaled m % scaled n)).scaleB e
        if negative then -rest else rest
    | .finite _ _, .infinite _ => x
    | _, _ => 0.0 / 0.0

end LintRoster.Machine.Tool.Awk
