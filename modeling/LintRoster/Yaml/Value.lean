import LintRoster.Decimal.Layout

/-!
# YAML values

A value is what a node of a document means: nothing, a truth value, a number, a text, a sequence, a
mapping, or a value under a tag. A mapping keeps the order of its entries; two mappings are the same
key if they hold the same entries in any order.
-/

namespace LintRoster.Yaml

/-- A number is an integer or a binary fraction. -/
inductive Number where
  | int (n : Int)
  | float (x : Binary64)
deriving DecidableEq, Repr

namespace Number

/-- Fractions keep a digit on both sides of the point and are positional from `0.00001` to below
`1e16`. -/
def layout : NumberLayout where
  low := -4
  high := 16

/-- The text of a number. -/
def text : Number → String
  | .int n => toString n
  | .float .nan => ".nan"
  | .float (.infinite negative) => if negative then "-.inf" else ".inf"
  | .float (.finite negative m) => (if negative then "-" else "") ++ layout.magnitude m

/-- Whether two numbers are the same key. An integer is never the same as a fraction. -/
def sameKey : Number → Number → Bool
  | .int m, .int n => m == n
  | .float x, .float y => x.sameKey y
  | _, _ => false

end Number

/-- What a node of a document means. -/
inductive Value where
  | null
  | bool (b : Bool)
  | number (n : Number)
  | string (s : String)
  | seq (items : List Value)
  | map (entries : List (Value × Value))
  | tagged (tag : String) (value : Value)
deriving Repr, Inhabited

namespace Value

/-- The value without the tags around it. -/
def untagged : Value → Value
  | .tagged _ v => v.untagged
  | v => v

/-- Whether the value is nothing, under any tags. -/
def isNull (v : Value) : Bool :=
  match v.untagged with
  | .null => true
  | _ => false

/-- The entries of a mapping, under any tags. -/
def entries? (v : Value) : Option (List (Value × Value)) :=
  match v.untagged with
  | .map entries => some entries
  | _ => none

/-- Whether the value is the given text, without a tag. -/
def isText (name : String) : Value → Bool
  | .string s => s == name
  | _ => false

/-- The value under a textual key of a mapping. -/
def lookup? (name : String) (entries : List (Value × Value)) : Option Value :=
  (entries.find? fun entry => entry.1.isText name).map Prod.snd

mutual

/-- Whether two values are the same key of a mapping. -/
def sameKey : Value → Value → Bool
  | .null, .null => true
  | .bool a, .bool b => a == b
  | .number m, .number n => m.sameKey n
  | .string s, .string t => s == t
  | .seq xs, .seq ys => sameItems xs ys
  | .map xs, .map ys => xs.length == ys.length && sameEntries xs ys
  | .tagged s v, .tagged t w => s == t && sameKey v w
  | _, _ => false

/-- Whether two lists of values are the same, item by item. -/
def sameItems : List Value → List Value → Bool
  | [], [] => true
  | x :: xs, y :: ys => sameKey x y && sameItems xs ys
  | _, _ => false

/-- Whether every entry of the first list is in the second. -/
def sameEntries : List (Value × Value) → List (Value × Value) → Bool
  | [], _ => true
  | (k, v) :: rest, ys =>
    (ys.any fun entry => sameKey k entry.1 && sameKey v entry.2) && sameEntries rest ys

end

end Value

end LintRoster.Yaml
