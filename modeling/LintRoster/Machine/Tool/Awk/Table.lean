import LintRoster.Machine.Tool.Awk.Value
import LintRoster.Text.Bytes
import Std.Data.HashMap

/-!
# Tables

A table has values under keys, which are texts. Integers are kept apart until a table is used with
another key or as a whole. The keys of a whole table are in the order of their buckets, and those of a
bucket in the order in which they were used, the last one first.
-/

namespace LintRoster.Machine.Tool.Awk

/-- A value in a table, and when it was last used under its key as an integer and as a text, as far as
it was entered so. -/
structure Entry where
  value : Value
  asInteger : Option Nat
  asText : Option Nat

/-- A table. -/
structure Table where
  entries : Std.HashMap String Entry
  /-- How often the table was used. -/
  clock : Nat
  buckets : Nat
  /-- Whether all keys are entered as texts. -/
  hasTexts : Bool

instance : Inhabited Table :=
  ⟨⟨∅, 0, 64, false⟩⟩

/-- A key of a table. -/
inductive Key where
  | integer (n : Int)
  | text (s : String)

/-- A key as a text. -/
def Key.name : Key → String
  | integer n => toString n
  | text s => s

/-- The key that a value is, with a format for numbers. -/
def Value.key (format : String) (v : Value) : Key :=
  match v with
  | .number x =>
    match (Binary64.ofFloat x).integer?, integerText? x with
    | some n, some _ => .integer n
    | _, _ => .text (textOf format x)
  | v => .text (v.toText format)

namespace Table

/-- The empty table. -/
def empty : Table :=
  default

/-- How many keys a bucket has on average at most. -/
def bucketSize : Nat :=
  12

/-- The number that decides on the bucket of a text. -/
def hash (s : String) : UInt32 :=
  (Bytes.toBytes s).foldl (fun h b => (h ^^^ b.toUInt32) * 16777619) 2166136261

/-- The entries in the order of their buckets, where the key that was used last comes first. -/
def inOrder (bucket : String → Nat) (used : Entry → Option Nat) (t : Table) : List String :=
  let ranked := t.entries.toList.filterMap fun (s, e) => (used e).map fun n => (bucket s, n, s)
  let sorted := ranked.mergeSort fun a b => a.1 < b.1 || (a.1 == b.1 && b.2.1 ≤ a.2.1)
  sorted.map fun r => r.2.2

/-- The table with all keys entered as texts. -/
def withTexts (t : Table) : Table :=
  if t.hasTexts then t
  else
    let bucket (s : String) : Nat := ((s.toInt?.getD 0) % Int.ofNat t.buckets).toNat
    let keys := t.inOrder bucket Entry.asInteger
    let t := keys.foldl (fun (t : Table) s =>
      let entries := t.entries.modify s fun e => { e with asText := some t.clock }
      { t with entries, clock := t.clock + 1 }) t
    { t with hasTexts := true }

/-- The keys of a table. -/
def keys (t : Table) : List String × Table :=
  let t := t.withTexts
  (t.inOrder (fun s => (hash s).toNat % t.buckets) Entry.asText, t)

/-- A table that has become greater, with more buckets if it needs them. -/
def grown (t : Table) : Table :=
  if bucketSize * t.buckets < t.entries.size then { t with buckets := 2 * t.buckets } else t

/-- The value under a key, which is entered unless it is there. -/
def find (k : Key) (t : Table) : Value × Table :=
  let t :=
    match k with
    | .integer _ => t
    | .text _ => t.withTexts
  let isInteger := k matches .integer _
  let now := some t.clock
  let name := k.name
  match t.entries[name]? with
  | some e =>
    let e :=
      if isInteger then
        if e.asInteger.isSome then { e with asInteger := now } else { e with asInteger := now, asText := now }
      else { e with asText := now }
    (e.value, { t with entries := t.entries.insert name e, clock := t.clock + 1 })
  | none =>
    let e : Entry :=
      ⟨.unset, if isInteger then now else none, if t.hasTexts then now else none⟩
    (.unset, grown { t with entries := t.entries.insert name e, clock := t.clock + 1 })

/-- The table with a value under a key. -/
def insert (k : Key) (v : Value) (t : Table) : Table :=
  let t := (t.find k).2
  { t with entries := t.entries.modify k.name fun e => { e with value := v } }

/-- Whether a table has a key. -/
def contains (k : Key) (t : Table) : Bool :=
  t.entries.contains k.name

/-- The table without a key. -/
def erase (k : Key) (t : Table) : Table :=
  { t with entries := t.entries.erase k.name }

/-- The table with values under the numbers from one on. -/
def ofList (vs : List Value) : Table :=
  (vs.zipIdx 1).foldl (fun t v => t.insert (.integer (Int.ofNat v.2)) v.1) empty

/-- How many keys a table has. -/
def size (t : Table) : Nat :=
  t.entries.size

end Table

end LintRoster.Machine.Tool.Awk
