import LintRoster.Machine.Tool.Awk.Runner
import LintRoster.Machine.Tool.Facts

/-!
# Carrying out scripts for records

`Awk.carryOut` carries out the rules of a script: those for the start, those for each record, and those
for the end. Expressions are worked out from the left to the right, and what is given a value is found
before the value is.
-/

namespace LintRoster.Machine.Tool.Awk

/-- What comes after a statement. -/
inductive Flow where
  | next
  /-- The end of a loop. -/
  | leave
  /-- The next round of a loop. -/
  | skip
  /-- The end of a function, with its value. -/
  | result (v : Value)

/-- What can be given a value. -/
inductive Target where
  | variable (v : Variable)
  | field (n : Nat)
  | element (table : Nat) (k : Key)

/-! ## Variables -/

/-- The place of a table. -/
def tablePlace (v : Variable) : Run Nat := do
  let r ← get
  match v with
  | .own n => return r.locals.tables.getD n 0
  | .fieldCount => return 0
  | .shared name => return (r.names[name]?).getD 0

/-- Changes a table. -/
def updateTable {α : Type} (place : Nat) (f : Table → α × Table) : Run α := do
  let r ← get
  match r.tables[place]? with
  | none => return (f .empty).1
  | some t =>
    set { r with tables := r.tables.setIfInBounds place .empty }
    let (a, t) := f t
    modify fun r => { r with tables := r.tables.setIfInBounds place t }
    return a

/-- Whether a variable is a table. -/
def isTable (v : Variable) : Run Bool := do
  let r ← get
  match v with
  | .own n => return 0 < r.locals.tables.getD n 0
  | .fieldCount => return false
  | .shared name => return r.names.contains name

/-- The value of a variable. -/
def variableValue (v : Variable) : Run Value := do
  match v with
  | .own n => return (← get).locals.values.getD n .unset
  | .shared name => shared name
  | .fieldCount =>
    split
    return .number (Float.ofNat (← get).fields.size)

/-- Gives something a value. -/
def store (t : Target) (v : Value) : Run Unit := do
  match t with
  | .variable .fieldCount => setCount (wholePart v.toNumber).toNat
  | .variable (.shared name) => setShared name v
  | .variable (.own n) =>
    modify fun r => { r with locals := { r.locals with values := r.locals.values.setIfInBounds n v } }
  | .field n => setField n v
  | .element place k => updateTable place fun t => ((), t.insert k v)

/-- The value that something has. -/
def load (t : Target) : Run Value := do
  match t with
  | .variable v => variableValue v
  | .field n => fieldValue n
  | .element place k => updateTable place fun t => t.find k

/-! ## Replacing -/

/-- What a match is replaced by. An ampersand stands for the match. -/
def replacement (found : List Char) : List Char → List Char
  | '\\' :: '&' :: cs => '&' :: replacement found cs
  | '\\' :: '\\' :: cs => '\\' :: replacement found cs
  | '&' :: cs => found ++ replacement found cs
  | c :: cs => c :: replacement found cs
  | [] => []

/-- A text from a place on with matches replaced, where the last match ended at `previous`. What is
there already comes last first. Also tells how many matches there were. -/
def replaceFrom (m : Regex.Matcher) (everywhere : Bool) (by_ text : List Char) :
    Nat → Nat → Option Nat → Nat → List (List Char) → List Char × Nat
  | 0, _, _, count, done => (done.reverse.flatten, count)
  | fuel + 1, start, previous, count, done =>
    let finish (start count : Nat) (done : List (List Char)) : List Char × Nat :=
      ((text.drop start :: done).reverse.flatten, count)
    match m.search text start with
    | none => finish start count done
    | some found =>
      let (first, last) := Regex.Matcher.ends found
      let done := Regex.Matcher.slice text start first :: done
      let again := replaceFrom m everywhere by_ text fuel
      if first == last && previous == some first then
        match text[first]? with
        | none => finish first count done
        | some c => again (first + 1) none count ([c] :: done)
      else
        let done := replacement (Regex.Matcher.slice text first last) by_ :: done
        if !everywhere then finish last (count + 1) done
        else if first < last then again last (some last) (count + 1) done
        else
          match text[first]? with
          | none => finish first (count + 1) done
          | some c => again (first + 1) none (count + 1) ([c] :: done)

/-- The part of a text from a place on, with a number of characters if one is given. The first place
is one, and what would be in front of it is left out. -/
def partOf (s : String) (first : Float) (count? : Option Float) : String :=
  let cs := s.toList
  let first := wholePart first
  let stop :=
    match count? with
    | none => Int.ofNat (cs.length + 1)
    | some n => first + wholePart n
  let front := max first 1
  String.ofList ((cs.drop (front - 1).toNat).take (stop - front).toNat)

/-- The place of a text within another one, or zero. -/
def placeOf (part : List Char) : Nat → List Char → Nat
  | n, cs =>
    if part.isPrefixOf cs then n
    else
      match cs with
      | [] => 0
      | _ :: cs => placeOf part (n + 1) cs

/-! ## Expressions and statements -/

/-- How long it takes to begin another round. -/
def roundCost : Nat :=
  2000

/-- How many calls of functions may be around one another. -/
def depthLimit : Nat :=
  1000

/-- The functions of one number. -/
def numberFunction? (b : Builtin) : Option (Float → Float) :=
  match b with
  | .squareRoot => some Float.sqrt
  | .exponential => some Float.exp
  | .logarithm => some Float.log
  | .sine => some Float.sin
  | .cosine => some Float.cos
  | .truncate => some fun x => if x < 0 then x.ceil else x.floor
  | _ => none

/-- Whether the record holds a match of a pattern. -/
def recordMatches (m : Regex.Matcher) : Run Bool := do
  let text ← recordText
  return (m.search text.toList 0).isSome

/-- A number that follows from the one before it, as if by chance. -/
def nextSeed (x : Float) : Float :=
  let y := x * 16807 + 12345
  y - (y / 2147483647).floor * 2147483647

/-- A call of a function that needs no expressions but the values of its arguments. -/
def apply (exec : Exec) (b : Builtin) (vs : List Value) : Run Value := do
  let numbers := vs.map Value.toNumber
  let texts ← vs.mapM textFor
  match b, texts, numbers with
  | .length, [], _ => return .number (Float.ofNat (← recordText).length)
  | .length, s :: _, _ => return .number (Float.ofNat s.length)
  | .substr, s :: _, _ :: first :: more => return .text (partOf s first more.head?)
  | .index, s :: part :: _, _ => return .number (Float.ofNat (placeOf part.toList 1 s.toList))
  | .small, s :: _, _ => return .text (s.map Char.toLower)
  | .capital, s :: _, _ => return .text (s.map Char.toUpper)
  | .arcTangent, _, y :: x :: _ => return .number (Float.atan2 y x)
  | .random, _, _ =>
    modify fun r => { r with seed := nextSeed r.seed }
    return .number ((← get).seed / 2147483647)
  | .seed, _, xs =>
    let before ← shared "SEED"
    setShared "SEED" (.number (xs.headD 0))
    modify fun r => { r with seed := (xs.headD 0) + 1 }
    return .number before.toNumber
  | .close, s :: _, _ => return .number (← closeNamed s)
  | .flush, s :: _, _ =>
    let isThere := (← get).outputs.any fun o => o.name == s
    flushAll
    return .number (if isThere then 0 else -1)
  | .flush, [], _ =>
    flushAll
    return .number 0
  | .time, _, _ => return .number (Float.ofInt Calendar.now)
  | .system, s :: _, _ =>
    flushAll
    let call := (← get).call
    let child : Work Nat := do
      discard (exec Exec.shellPath [Exec.shellPath, "-c", s] call.environment)
      return 127
    let id ← work (Work.fork child.toTask)
    return .number (Float.ofNat (statusOf (← work (awaitChild id))))
  | .format, format :: _, _ =>
    let conversion ← conversionFormat
    let (cs, fault?) :=
      formatFrom (Value.toText conversion) Value.toNumber (format.length + 1) 0 format.toList (vs.drop 1) []
    match fault? with
    | none => return .text (String.ofList cs)
    | some fault => failAt (fault.text "sprintf" format)
  | b, _, x :: _ => return .number (((numberFunction? b).map fun f => f x).getD 0)
  | _, _, [] => return .unset

mutual

/-- The value of an expression. -/
def eval (exec : Exec) : Nat → Expr → Run Value
  | 0, _ => throw (.abort 2)
  | fuel + 1, e => do
    match e with
    | .number x => return .number x
    | .text s => return .text s
    | .pattern m => return .ofBool (← recordMatches m)
    | .variable v => variableValue v
    | .field _ | .element _ _ => load (← target exec fuel e)
    | .contains key v =>
      let k ← keyOf exec fuel key
      updateTable (← tablePlace v) fun t => (Value.ofBool (t.contains k), t)
    | .assign t e =>
      let t ← target exec fuel t
      let v ← eval exec fuel e
      store t v
      return v
    | .update o t e =>
      let t ← target exec fuel t
      let y := (← eval exec fuel e).toNumber
      let x := (← load t).toNumber
      let v := Value.number (o.apply x y)
      store t v
      return v
    | .increment o givesNew t =>
      let t ← target exec fuel t
      let x := (← load t).toNumber
      let y := o.apply x 1
      store t (.number y)
      return .number (if givesNew then y else x)
    | .calculate o a b =>
      let x := (← eval exec fuel a).toNumber
      let y := (← eval exec fuel b).toNumber
      return .number (o.apply x y)
    | .negative e => return .number (-(← eval exec fuel e).toNumber)
    | .positive e => return .number (← eval exec fuel e).toNumber
    | .opposite e => return .ofBool (!(← eval exec fuel e).isTrue)
    | .both a b =>
      if (← eval exec fuel a).isTrue then return .ofBool (← eval exec fuel b).isTrue
      else return .ofBool false
    | .either a b =>
      if (← eval exec fuel a).isTrue then return .ofBool true
      else return .ofBool (← eval exec fuel b).isTrue
    | .choose c a b =>
      if (← eval exec fuel c).isTrue then eval exec fuel a else eval exec fuel b
    | .compare c a b =>
      let x ← eval exec fuel a
      let y ← eval exec fuel b
      return .ofBool (x.compare (← conversionFormat) c y)
    | .holds negated e pattern =>
      let text ← textFor (← eval exec fuel e)
      let m ← matcher exec fuel pattern
      return .ofBool ((m.search text.toList 0).isSome != negated)
    | .joined a b =>
      let s ← textFor (← eval exec fuel a)
      let t ← textFor (← eval exec fuel b)
      return .text (s ++ t)
    | .call name arguments => callFunction exec fuel name arguments
    | .builtin b arguments => builtin exec fuel b arguments
    | .getline source target? => getline exec fuel source target?

/-- The matcher for a pattern, which may be worked out only now. -/
def matcher (exec : Exec) : Nat → Expr → Run Regex.Matcher
  | 0, _ => throw (.abort 2)
  | fuel + 1, e => do
    match e with
    | .pattern m => return m
    | e => matcherFor (← textFor (← eval exec fuel e))

/-- The key that expressions are. -/
def keyOf (exec : Exec) : Nat → List Expr → Run Key
  | 0, _ => throw (.abort 2)
  | fuel + 1, es => do
    match es with
    | [e] =>
      let v ← eval exec fuel e
      match v with
      | .number _ => return v.key (← conversionFormat)
      | v => return .text (← textFor v)
    | es =>
      let texts ← es.mapM fun e => do textFor (← eval exec fuel e)
      return .text ((← sharedText "SUBSEP").intercalate texts)

/-- What an expression stands for that can be given a value. -/
def target (exec : Exec) : Nat → Expr → Run Target
  | 0, _ => throw (.abort 2)
  | fuel + 1, e => do
    match e with
    | .variable v => return .variable v
    | .field e =>
      let v ← eval exec fuel e
      let n := wholePart v.toNumber
      if n < 0 then failAt ("negative field index $" ++ toString n)
      return .field n.toNat
    | .element table key =>
      let k ← keyOf exec fuel key
      let place ← tablePlace table
      discard (updateTable place fun t => t.find k)
      return .element place k
    | _ => throw (.abort 2)

/-- A call of a function of the script. -/
def callFunction (exec : Exec) : Nat → String → List Expr → Run Value
  | 0, _, _ => throw (.abort 2)
  | fuel + 1, name, arguments => do
    let r ← get
    match r.script.functions.find? fun f => f.name == name with
    | none => fail ("function " ++ name ++ " never defined")
    | some f =>
      if depthLimit ≤ r.depth then fail "program limit exceeded: eval stack size=1024"
      work (Work.ask (.pass roundCost))
      let mut values : Array Value := #[]
      let mut places : Array Nat := #[]
      for n in List.range f.parameters do
        let argument? := arguments[n]?
        if f.tables.contains n then
          match argument? with
          | some (.variable v) =>
            places := places.push (← tablePlace v)
          | _ =>
            places := places.push (← get).tables.size
            modify fun r => { r with tables := r.tables.push .empty }
          values := values.push .unset
        else
          let v ←
            match argument? with
            | some e => eval exec fuel e
            | none => pure .unset
          values := values.push v
          places := places.push 0
      let before := r.locals
      modify fun r => { r with locals := ⟨values, places⟩, depth := r.depth + 1 }
      let flow ← statement exec fuel f.body
      modify fun now =>
        { now with locals := before, depth := now.depth - 1, tables := now.tables.take r.tables.size }
      match flow with
      | .result v => return v
      | _ => return .unset

/-- A call of a function that every script has. -/
def builtin (exec : Exec) : Nat → Builtin → List Expr → Run Value
  | 0, _, _ => throw (.abort 2)
  | fuel + 1, b, arguments => do
    match b, arguments with
    | .length, [.variable v] =>
      if ← isTable v then
        updateTable (← tablePlace v) fun t => (.number (Float.ofNat t.size), t)
      else apply exec b [← variableValue v]
    | .split, text :: .variable v :: more =>
      let s ← textFor (← eval exec fuel text)
      let separator ←
        match more with
        | [.pattern m] => pure (.pattern m)
        | [e] => separatorFor (← textFor (← eval exec fuel e))
        | _ => separatorFor (← sharedText "FS")
      let pieces := separator.pieces s
      updateTable (← tablePlace v) fun _ => ((), Table.ofList (pieces.map Value.given))
      return .number (Float.ofNat pieces.length)
    | .locate, [text, pattern] =>
      let s ← textFor (← eval exec fuel text)
      let m ← matcher exec fuel pattern
      let (start, length) :=
        match m.search s.toList 0 with
        | none => ((0 : Float), (-1 : Float))
        | some found =>
          let (first, last) := Regex.Matcher.ends found
          (Float.ofNat (first + 1), Float.ofNat (last - first))
      setShared "RSTART" (.number start)
      setShared "RLENGTH" (.number length)
      return .number start
    | .replaceFirst, pattern :: by_ :: more | .replaceAll, pattern :: by_ :: more =>
      let m ← matcher exec fuel pattern
      let by_ ← textFor (← eval exec fuel by_)
      let e := more.headD (.field (.number 0))
      let target? ←
        match e with
        | .variable _ | .field _ | .element _ _ => some <$> target exec fuel e
        | _ => pure none
      let text ←
        match target? with
        | some t => textFor (← load t)
        | none => textFor (← eval exec fuel e)
      let (cs, count) :=
        replaceFrom m (b == .replaceAll) by_.toList text.toList (text.length + 2) 0 none 0 []
      if 0 < count then
        match target? with
        | some t => store t (.text (String.ofList cs))
        | none => pure ()
      return .number (Float.ofNat count)
    | b, arguments =>
      let vs ← arguments.mapM fun e => eval exec fuel e
      apply exec b vs

/-- Reads a record. Gives one, zero at the end, or minus one. -/
def getline (exec : Exec) : Nat → Source → Option Expr → Run Value
  | 0, _, _ => throw (.abort 2)
  | fuel + 1, source, target? => do
    let take (s : String) : Run Value := do
      match target? with
      | none => setRecord s
      | some e => store (← target exec fuel e) (.given s)
      return .number 1
    let taken (result : Except Unit (Option String)) : Run Value := do
      match result with
      | .error () => return .number (-1)
      | .ok none => return .number 0
      | .ok (some s) => take s
    match source with
    | .main => taken (.ok (← nextRecord Work.rounds))
    | .file name => taken (← recordFrom exec (← textFor (← eval exec fuel name)) false)
    | .command text =>
      taken (← recordFrom exec (← textFor (← eval exec fuel text)) true)

/-- Carries out a statement. -/
def statement (exec : Exec) : Nat → Statement → Run Flow
  | 0, _ => throw (.abort 2)
  | fuel + 1, s => do
    match s with
    | .nothing => return .next
    | .value e =>
      discard (eval exec fuel e)
      return .next
    | .print es target? =>
      let text ←
        match es with
        | [] => recordText
        | es =>
          let texts ← es.mapM fun e => do
            match ← eval exec fuel e with
            | .number x =>
              match integerText? x with
              | some s => pure s
              | none => return textOf (← sharedText "OFMT") x
            | v => textFor v
          pure ((← sharedText "OFS").intercalate texts)
      let ending ← sharedText "ORS"
      write exec fuel target? (text ++ ending)
    | .printf es target? =>
      let vs ← es.mapM fun e => eval exec fuel e
      let format ← textFor (vs.headD .unset)
      let conversion ← conversionFormat
      let (cs, fault?) :=
        formatFrom (Value.toText conversion) Value.toNumber (format.length + 1) 0 format.toList (vs.drop 1) []
      let flow ← write exec fuel target? (String.ofList cs)
      match fault? with
      | none => return flow
      | some fault => failAt (fault.text "printf" format)
    | .block ss => statements exec fuel ss
    | .choose c first second =>
      if (← eval exec fuel c).isTrue then statement exec fuel first else statement exec fuel second
    | .loop start condition step body =>
      discard (statement exec fuel start)
      rounds exec fuel true condition step body
    | .loopOnce body condition => rounds exec fuel false (some condition) .nothing body
    | .forEach v table body =>
      let keys ← updateTable (← tablePlace table) Table.keys
      each exec fuel v body keys
    | .leave => return .leave
    | .skip => return .skip
    | .next => throw .next
    | .nextFile => throw .nextFile
    | .exit status? =>
      match status? with
      | none => throw (.exit none)
      | some e =>
        let n := wholePart (← eval exec fuel e).toNumber
        throw (.exit (some (n % 256).toNat))
    | .result none => return .result .unset
    | .result (some e) => return .result (← eval exec fuel e)
    | .delete table key =>
      let place ← tablePlace table
      if key.isEmpty then updateTable place fun _ => ((), .empty)
      else
        let k ← keyOf exec fuel key
        updateTable place fun t => ((), t.erase k)
      return .next

/-- Carries out statements up to one that something else comes after. -/
def statements (exec : Exec) : Nat → List Statement → Run Flow
  | 0, _ => throw (.abort 2)
  | _, [] => return .next
  | fuel + 1, s :: ss => do
    match ← statement exec fuel s with
    | .next => statements exec fuel ss
    | flow => return flow

/-- Carries out the rounds of a loop, where `checks` tells whether the condition is for the next
one. -/
def rounds (exec : Exec) : Nat → Bool → Option Expr → Statement → Statement → Run Flow
  | 0, _, _, _, _ => throw (.abort 2)
  | fuel + 1, checks, condition, step, body => do
    work (Work.ask (.pass roundCost))
    let goesOn ←
      match checks, condition with
      | true, some e => do pure (← eval exec fuel e).isTrue
      | _, _ => pure true
    if !goesOn then return .next
    match ← statement exec fuel body with
    | .leave => return .next
    | .result v => return .result v
    | .next | .skip =>
      discard (statement exec fuel step)
      rounds exec fuel true condition step body

/-- Carries out a statement for each of some keys. -/
def each (exec : Exec) : Nat → Variable → Statement → List String → Run Flow
  | 0, _, _, _ => throw (.abort 2)
  | _, _, _, [] => return .next
  | fuel + 1, v, body, k :: ks => do
    work (Work.ask (.pass roundCost))
    store (.variable v) (.text k)
    match ← statement exec fuel body with
    | .leave => return .next
    | .result v => return .result v
    | .next | .skip => each exec fuel v body ks

/-- Writes a text to where it is directed. -/
def write (exec : Exec) : Nat → Option (Direction × Expr) → String → Run Flow
  | 0, _, _ => throw (.abort 2)
  | fuel + 1, target?, s => do
    match target? with
    | none => put s
    | some (d, e) =>
      let name ← textFor (← eval exec fuel e)
      send exec (some (d, name)) s
    return .next

end

/-! ## Scripts -/

/-- Whether a rule is for the present record. -/
def isFor (exec : Exec) (place : Nat) (c : Condition) : Run Bool := do
  match c with
  | .start | .stop => return false
  | .always => return true
  | .holding e => return (← eval exec Work.rounds e).isTrue
  | .range first second =>
    let setActive (b : Bool) : Run Unit :=
      modify fun r => { r with active := r.active.setIfInBounds place b }
    let isActive := (← get).active.getD place false
    if isActive || (← eval exec Work.rounds first).isTrue then
      setActive (!(← eval exec Work.rounds second).isTrue)
      return true
    else return false

/-- Carries out rules for the present record. -/
def forRecord (exec : Exec) : Nat → List Rule → Run Unit
  | _, [] => return
  | place, rule :: rules => do
    if ← isFor exec place rule.condition then discard (statement exec Work.rounds rule.action)
    forRecord exec (place + 1) rules

/-- Carries out rules for every record. -/
def forRecords (exec : Exec) (rules : List Rule) : Nat → Run Unit
  | 0 => return
  | fuel + 1 => do
    work (Work.ask (.pass roundCost))
    match ← nextRecord Work.rounds with
    | none => return
    | some s =>
      setRecord s
      tryCatch (forRecord exec 0 rules) fun
        | .next => return
        | .nextFile => leaveInput
        | other => throw other
      forRecords exec rules fuel

/-- Carries out the rules of a kind, up to one that ends everything. Gives the status that this one
asks for. -/
def withStatus (act : Run Unit) : Run (Bool × Option Nat) :=
  tryCatch (do
    act
    return (false, none)) fun
    | .exit status? => return (true, status?)
    | other => throw other

/-- Carries out a script. Gives a status. -/
def carryOut (exec : Exec) : Run Nat := do
  let script := (← get).script
  let rules := script.rules.toList
  let starts := rules.filter fun r => r.condition matches .start
  let stops := rules.filter fun r => r.condition matches .stop
  let others := rules.filter fun r => !(r.condition matches .start | .stop)
  let all (rs : List Rule) : Run Unit := rs.forM fun r => discard (statement exec Work.rounds r.action)
  let status ← tryCatch (do
    let (isOver, first?) ← withStatus (all starts)
    let second? ←
      if isOver || (others.isEmpty && stops.isEmpty) then pure none
      else Prod.snd <$> withStatus (forRecords exec others Work.rounds)
    let (_, third?) ← withStatus (all stops)
    return ((third?.or second?).or first?).getD 0) fun
    | .abort status => return status
    | _ => return 0
  closeAll
  return status

end LintRoster.Machine.Tool.Awk
