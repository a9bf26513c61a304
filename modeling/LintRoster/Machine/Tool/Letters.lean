import LintRoster.Machine.Tool.Lines

/-!
# Replacing letters

A tool that replaces or removes bytes. Sets of bytes are written with ranges, classes and repetitions,
and their order matters where they stand for each other.
-/

namespace LintRoster.Machine.Tool

namespace ByteSet

/-- A byte of a written set, and whether it was escaped. -/
structure Mark where
  byte : UInt8
  escaped : Bool

/-- A part of a written set. -/
inductive Item where
  | one (b : UInt8)
  | range (first last : UInt8)
  | named (name : String)
  | repeated (b : UInt8) (count : Nat)

/-- The letters of escapes. -/
def escapes : List (Char × UInt8) :=
  [('a', 7), ('b', 8), ('f', 12), ('n', 10), ('r', 13), ('t', 9), ('v', 11), ('\\', 92)]

/-- The marks of a written set. -/
def marks : Nat → List Char → List Mark
  | 0, _ => []
  | _, [] => []
  | fuel + 1, '\\' :: c :: cs =>
    match escapes.lookup c with
    | some b => ⟨b, true⟩ :: marks fuel cs
    | none =>
      let ds := ((c :: cs).take 3).takeWhile fun d => (Text.digit? 8 d).isSome
      let short := ds.take 2
      let value (ds : List Char) : Nat := (Text.digitsValue? 8 0 ds).getD 0
      if ds.isEmpty then ⟨Bytes.byteOf c, true⟩ :: marks fuel cs
      else
        let ds := if value ds > 255 then short else ds
        ⟨UInt8.ofNat (value ds), true⟩ :: marks fuel ((c :: cs).drop ds.length)
  | fuel + 1, c :: cs => ⟨Bytes.byteOf c, false⟩ :: marks fuel cs

/-- Whether a mark is a certain character that was not escaped. -/
def Mark.isPlain (c : Char) (m : Mark) : Bool :=
  !m.escaped && m.byte == Bytes.byteOf c

/-- What stands between brackets with a sign inside them, and what follows. -/
def bracketed? (sign : Char) : List Mark → Option (List Mark × List Mark)
  | o :: s :: rest =>
    if !(o.isPlain '[' && s.isPlain sign) then none
    else find [] rest
  | _ => none
where
  /-- Looks for the end of the brackets. -/
  find (before : List Mark) : List Mark → Option (List Mark × List Mark)
    | s :: c :: rest =>
      if s.isPlain sign && c.isPlain ']' then some (before.reverse, rest)
      else find (s :: before) (c :: rest)
    | _ => none

/-- A byte that is repeated, how often, and what follows. -/
def repetition? : List Mark → Option (UInt8 × Nat × List Mark)
  | o :: b :: s :: rest =>
    let ds := rest.takeWhile fun m => !m.escaped && (Bytes.charOf m.byte).isDigit
    let base := if ds.head?.any (Mark.isPlain '0') then 8 else 10
    let value := Text.digitsValue? base 0 (ds.map fun m => Bytes.charOf m.byte)
    match rest.drop ds.length with
    | c :: after =>
      if o.isPlain '[' && s.isPlain '*' && c.isPlain ']' then
        value.map fun n => (b.byte, n, after)
      else none
    | [] => none
  | _ => none

/-- A text for a byte in a complaint. -/
def shown (b : UInt8) : String :=
  if 32 ≤ b && b < 127 then String.singleton (Bytes.charOf b) else Quoted.escape (Bytes.charOf b)

/-- The items of a written set. -/
def items : Nat → List Mark → Except String (List Item)
  | 0, _ => .ok []
  | _, [] => .ok []
  | fuel + 1, m :: rest =>
    match bracketed? ':' (m :: rest), bracketed? '=' (m :: rest), repetition? (m :: rest) with
    | some (name, after), _, _ => do
      return .named (Bytes.ofBytes (name.map Mark.byte)) :: (← items fuel after)
    | none, some ([b], after), _ => do return .one b.byte :: (← items fuel after)
    | none, _, some (b, n, after) => do return .repeated b n :: (← items fuel after)
    | none, _, none =>
      match rest with
      | d :: last :: after =>
        if d.isPlain '-' then
          if last.byte < m.byte then
            .error ("range-endpoints of '" ++ shown m.byte ++ "-" ++ shown last.byte ++
              "' are in reverse collating sequence order")
          else do return .range m.byte last.byte :: (← items fuel after)
        else do return .one m.byte :: (← items fuel rest)
      | _ => do return .one m.byte :: (← items fuel rest)

/-- Which bytes belong to a class. -/
def classOf? (name : String) : Option (UInt8 → Bool) :=
  let lower (b : UInt8) : Bool := 97 ≤ b && b ≤ 122
  let upper (b : UInt8) : Bool := 65 ≤ b && b ≤ 90
  let digit (b : UInt8) : Bool := 48 ≤ b && b ≤ 57
  let graph (b : UInt8) : Bool := 33 ≤ b && b ≤ 126
  let alnum (b : UInt8) : Bool := lower b || upper b || digit b
  let classes : List (String × (UInt8 → Bool)) :=
    [("alnum", alnum), ("alpha", fun b => lower b || upper b), ("blank", isBlankByte),
      ("cntrl", fun b => b < 32 || b == 127), ("digit", digit), ("graph", graph), ("lower", lower),
      ("print", fun b => b == 32 || graph b), ("punct", fun b => graph b && !alnum b),
      ("space", Counts.isSpace), ("upper", upper),
      ("xdigit", fun b => digit b || (65 ≤ b && b ≤ 70) || (97 ≤ b && b ≤ 102))]
  classes.lookup name

/-- All bytes in order. -/
def all : List UInt8 :=
  (List.range 256).map UInt8.ofNat

/-- The bytes of an item. Repetitions without a number are as often as `fill` says. -/
def bytesOf (fill : Nat) : Item → Except String (List UInt8)
  | .one b => .ok [b]
  | .range first last => .ok (all.filter fun b => first ≤ b && b ≤ last)
  | .named name =>
    match classOf? name with
    | some holds => .ok (all.filter holds)
    | none => .error ("invalid character class " ++ Quoted.curved name)
  | .repeated b 0 => .ok (List.replicate fill b)
  | .repeated b n => .ok (List.replicate n b)

/-- The items of a text. -/
def ofText (text : String) : Except String (List Item) :=
  items (text.length + 1) (marks (text.length + 1) text.toList)

/-- The bytes of items. -/
def expand (fill : Nat) (is : List Item) : Except String (List UInt8) := do
  return (← is.mapM (bytesOf fill)).flatten

/-- The bytes of items that are to be as many as those of another set. -/
def expandTo (count : Nat) (is : List Item) : Except String (List UInt8) := do
  let least := (← expand 0 is).length
  expand (count - least) is

end ByteSet

/-- What happens to bytes: some are removed, others replaced, and repetitions of some are dropped. -/
structure ByteMap where
  removed : Array Bool
  replaced : Array UInt8
  squeezed : Array Bool

namespace ByteMap

/-- A table that tells which bytes are in a list. -/
def tableOf (bs : List UInt8) : Array Bool :=
  bs.foldl (fun t b => t.setIfInBounds b.toNat true) (Array.replicate 256 false)

/-- Bytes after they were mapped, last first, behind a byte that was written before. -/
def apply (m : ByteMap) : Option UInt8 → List UInt8 → List UInt8 → List UInt8 × Option UInt8
  | last?, done, [] => (done, last?)
  | last?, done, b :: bs =>
    if m.removed.getD b.toNat false then apply m last? done bs
    else
      let c := m.replaced.getD b.toNat b
      if last? == some c && m.squeezed.getD c.toNat false then apply m last? done bs
      else apply m (some c) (c :: done) bs

end ByteMap

/-- Maps the input to the output. -/
def mapInput (call : Call) (m : ByteMap) : Nat → Option UInt8 → Work Nat
  | 0, _ => return 1
  | fuel + 1, last? => do
    match ← Work.ask (.read 0 Work.portion) with
    | .error fault =>
      complain call ("read error: " ++ fault.summary)
      return 1
    | .ok [] => return 0
    | .ok bytes =>
      let (done, last?) := m.apply last? [] bytes
      let status ← put call done.reverse 0
      if status == 0 then mapInput call m fuel last? else return status

/-- How bytes are mapped, by the options and the sets of a tool. -/
def byteMapFor (deletes squeezes complement truncates : Bool) (first : String)
    (second? : Option String) : Except String ByteMap := do
  let own ← ByteSet.expand 0 (← ByteSet.ofText first)
  let own := if complement then ByteSet.all.filter fun b => !own.contains b else own
  let nothing := ByteMap.tableOf []
  let identity := ByteSet.all.toArray
  match deletes, second? with
  | true, second? =>
    let other ←
      match second? with
      | some second => ByteSet.expand 0 (← ByteSet.ofText second)
      | none => pure []
    return ⟨ByteMap.tableOf own, identity, ByteMap.tableOf other⟩
  | false, none => return ⟨nothing, identity, ByteMap.tableOf own⟩
  | false, some second =>
    let items ← ByteSet.ofText second
    let isStrange (i : ByteSet.Item) : Bool :=
      match i with
      | .named name => name != "upper" && name != "lower"
      | _ => false
    if items.any isStrange then
      throw ("when translating, the only character classes that may appear in\n" ++
        "string2 are 'upper' and 'lower'")
    let other ← ByteSet.expandTo own.length items
    if other.isEmpty && !truncates && !own.isEmpty then
      throw "when not truncating set1, string2 must be non-empty"
    let last := other.getLast?
    let padded := other ++ List.replicate (own.length - other.length) (last.getD 0)
    let pairs := own.zip (if truncates then other else padded)
    let table := pairs.foldl (fun t p => t.setIfInBounds p.1.toNat p.2) identity
    return ⟨nothing, table, if squeezes then ByteMap.tableOf other else nothing⟩

/-- Replaces, removes or squeezes bytes. -/
def tr : Tool := fun _ call =>
  withOptions call {
      letters := "cCdst"
      names := [("complement", .nothing, 'c'), ("delete", .nothing, 'd'),
        ("squeeze-repeats", .nothing, 's'), ("truncate-set1", .nothing, 't')]
      inFront := true } 1
    fun given => do
      let deletes := given.has 'd'
      let squeezes := given.has 's'
      let carryOut (first : String) (second? : Option String) : Work Nat := do
        for text in first :: second?.toList do
          if (text.toList.reverse.takeWhile (· == '\\')).length % 2 == 1 then
            complain call "warning: an unescaped backslash at end of string is not portable"
        match byteMapFor deletes squeezes (given.has 'c' || given.has 'C') (given.has 't') first
            second? with
        | .error complaint =>
          complain call complaint
          return 1
        | .ok m => mapInput call m Work.rounds none
      let lacking (first why : String) : Work Nat :=
        misused call 1 ("missing operand after " ++ Quoted.curved first ++ "\n" ++ why)
      match given.operands with
      | [] => misused call 1 "missing operand"
      | [first] =>
        if deletes && squeezes then
          lacking first "Two strings must be given when both deleting and squeezing repeats."
        else if deletes || squeezes then carryOut first none
        else lacking first "Two strings must be given when translating."
      | [first, second] =>
        if deletes && !squeezes then
          misused call 1 ("extra operand " ++ Quoted.curved second ++
            "\nOnly one string may be given when deleting without squeezing repeats.")
        else carryOut first (some second)
      | _ :: _ :: extra :: _ => misused call 1 ("extra operand " ++ Quoted.curved extra)

end LintRoster.Machine.Tool
