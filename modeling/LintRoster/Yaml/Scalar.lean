import LintRoster.Text.Digit
import LintRoster.Yaml.Token
import LintRoster.Yaml.Value

/-!
# The meaning of scalars

A plain scalar without a tag means the first of these that its text can mean: nothing, a truth
value, an integer, a fraction, or else the text itself. A tag of the core types forces the type, and
the text of a quoted or block scalar is always a text.
-/

namespace LintRoster.Yaml.Scalar

/-- The names of nothing. -/
def isNullName (s : String) : Bool :=
  ["null", "Null", "NULL", "~"].contains s

/-- The truth value that a text names. -/
def bool? (s : String) : Option Bool :=
  if ["true", "True", "TRUE"].contains s then some true
  else if ["false", "False", "FALSE"].contains s then some false
  else none

/-- Whether a text is digits that begin with a zero and go on, which are no number. -/
def isZeroPadded (cs : List Char) : Bool :=
  match cs with
  | '0' :: d :: ds => (d :: ds).all Char.isDigit
  | _ => false

/-- The base and the digits of an unsigned integer. -/
def baseAndDigits : List Char → Nat × List Char
  | '0' :: 'x' :: ds => (16, ds)
  | '0' :: 'o' :: ds => (8, ds)
  | '0' :: 'b' :: ds => (2, ds)
  | ds => (10, ds)

/-- The value of an unsigned integer. -/
def unsigned? (cs : List Char) : Option Nat :=
  if isZeroPadded cs then none
  else
    let (base, digits) := baseAndDigits cs
    Text.natural? base digits

/-- The value of an integer with an optional sign. -/
def int? : List Char → Option Int
  | '+' :: cs => (unsigned? cs).map fun n => (n : Int)
  | '-' :: cs => (unsigned? cs).map fun n => -(n : Int)
  | cs => (unsigned? cs).map fun n => (n : Int)

/-- The least and the greatest integer that a value may be. -/
def intRange : Int × Int :=
  (-(Nat.pow 2 63 : Nat), (Nat.pow 2 64 : Nat) - 1)

/-- The least and the greatest integer that a text may mean. A greater one in decimal notation is a
fraction. -/
def wideIntRange : Int × Int :=
  (-(Nat.pow 2 127 : Nat), (Nat.pow 2 128 : Nat) - 1)

/-- Whether an integer is in a range. -/
def inRange (range : Int × Int) (n : Int) : Bool :=
  range.1 ≤ n && n ≤ range.2

/-- The parts of a decimal fraction without sign: its digits, the number of those after the point,
and the text of its exponent. -/
structure FractionParts where
  digits : List Char
  places : Nat
  exponent : List Char

/-- Cuts a decimal fraction into its parts. There is at least one digit. -/
def fractionParts? (cs : List Char) : Option FractionParts :=
  let whole := cs.takeWhile Char.isDigit
  let rest := cs.dropWhile Char.isDigit
  let (places, rest) :=
    match rest with
    | '.' :: rest => (rest.takeWhile Char.isDigit, rest.dropWhile Char.isDigit)
    | rest => ([], rest)
  if whole.isEmpty && places.isEmpty then none
  else
    match rest with
    | [] => some ⟨whole ++ places, places.length, ['0']⟩
    | 'e' :: e | 'E' :: e => some ⟨whole ++ places, places.length, e⟩
    | _ => none

/-- The value of an exponent. Exponents are cut at a bound that no fraction needs. -/
def exponent? (cs : List Char) : Option Int :=
  let (negative, digits) :=
    match cs with
    | '-' :: ds => (true, ds)
    | '+' :: ds => (false, ds)
    | ds => (false, ds)
  if digits.isEmpty || !digits.all Char.isDigit then none
  else
    let n : Nat := digits.foldl (fun n c => min 100000000 (n * 10 + (c.toNat - 0x30))) 0
    some (if negative then -(n : Int) else (n : Int))

/-- The number that a decimal fraction without sign is read as. -/
def unsignedFraction? (negative : Bool) (cs : List Char) : Option Binary64 := do
  let parts ← fractionParts? cs
  let exponent ← exponent? parts.exponent
  let digits ← Text.natural? 10 parts.digits
  let x := Binary64.ofDecimal negative digits (exponent - parts.places)
  if x.isFinite then some x else none

/-- The fraction that a text means. Infinities and the number that is none have names of their own,
and a decimal fraction that is too great is none. -/
def fraction? (s : String) : Option Binary64 :=
  if [".inf", ".Inf", ".INF", "+.inf", "+.Inf", "+.INF"].contains s then some (.infinite false)
  else if ["-.inf", "-.Inf", "-.INF"].contains s then some (.infinite true)
  else if [".nan", ".NaN", ".NAN"].contains s then some .nan
  else
    match s.toList with
    | '+' :: cs => unsignedFraction? false cs
    | '-' :: cs => unsignedFraction? true cs
    | cs => unsignedFraction? false cs

/-- The meaning of an integer text, which may be out of range. Nothing is the answer for texts that
mean no integer. -/
def integer? (s : String) : Option (Except Fault Value) :=
  match int? s.toList with
  | none => none
  | some n =>
    if inRange intRange n then some (.ok (.number (.int n)))
    else if inRange wideIntRange n then some (.error .valueOutOfRange)
    else none

/-- A sign is dropped from a text. -/
def dropSign : List Char → List Char
  | '+' :: cs | '-' :: cs => cs
  | cs => cs

/-- The meaning of a plain scalar without a tag. -/
def plainValue (s : String) : Except Fault Value :=
  if s.isEmpty || isNullName s then .ok .null
  else
    match bool? s with
    | some b => .ok (.bool b)
    | none =>
      match integer? s with
      | some r => r
      | none =>
        if isZeroPadded (dropSign s.toList) then .ok (.string s)
        else
          match fraction? s with
          | some x => .ok (.number (.float x))
          | none => .ok (.string s)

/-- The tag of nothing. -/
def nullTag : String := "tag:yaml.org,2002:null"

/-- The tag of truth values. -/
def boolTag : String := "tag:yaml.org,2002:bool"

/-- The tag of integers. -/
def intTag : String := "tag:yaml.org,2002:int"

/-- The tag of fractions. -/
def floatTag : String := "tag:yaml.org,2002:float"

/-- The value that a text must have, or the value is out of range. -/
def require (v : Option Value) : Except Fault Value :=
  match v with
  | some v => .ok v
  | none => .error .valueOutOfRange

/-- The meaning of a scalar with a tag that makes no tagged value. -/
def typedValue (tag text : String) : Except Fault Value :=
  if tag == boolTag then require ((bool? text).map .bool)
  else if tag == intTag then (integer? text).getD (.error .valueOutOfRange)
  else if tag == floatTag then require ((fraction? text).map fun x => .number (.float x))
  else if tag == nullTag then require (if isNullName text then some .null else none)
  else .ok (.string text)

/-- Whether the bytes of a tag were UTF-8. The text of every other tag holds a null character. -/
def isReadable (tag : String) : Bool :=
  !tag.toList.contains '\x00'

/-- Whether a tag begins with an exclamation mark. -/
def isLocal (tag : String) : Bool :=
  tag.toList.head? == some '!'

/-- The tag of a tagged value, as it is shown, for a tag that makes one: a readable tag that begins
with an exclamation mark. A tag of that mark alone is shown with two. -/
def shownTag? (tag : String) : Option String :=
  if !isReadable tag then none
  else
    match tag.toList with
    | ['!'] | ['!', '!'] => some "!!"
    | '!' :: '!' :: name => some (String.ofList ('!' :: name))
    | '!' :: name => some (String.ofList ('!' :: name))
    | _ => none

/-- The meaning of a scalar. A tag that begins with an exclamation mark and makes no tagged value is
left aside. -/
def value (tag : Option String) (text : String) (plain : Bool) : Except Fault Value :=
  let bare := if plain then plainValue text else .ok (.string text)
  match tag with
  | none => bare
  | some tag =>
    match shownTag? tag with
    | some shown => bare.map (.tagged shown)
    | none => if isLocal tag then bare else typedValue tag text

end LintRoster.Yaml.Scalar
