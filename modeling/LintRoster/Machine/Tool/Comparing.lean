import LintRoster.Machine.Tool.Lines

/-!
# Comparing files

Tools that tell whether two files are the same, where they begin to differ, or which lines would have
to be changed to get from one to the other.
-/

namespace LintRoster.Machine.Tool

/-- Reads two inputs. What cannot be read is complained about. -/
def readBoth (call : Call) (isQuiet : Bool) (first second : String) :
    Work (Option (List UInt8 × List UInt8)) := do
  let unread (name : String) (fault : FileFault) : Work (Option (List UInt8 × List UInt8)) := do
    if !isQuiet then complain call (name ++ ": " ++ fault.summary)
    return none
  match ← slurp first with
  | .error fault => unread first fault
  | .ok a =>
    match ← slurp second with
    | .error fault => unread second fault
    | .ok b => return some (a, b)

/-- Complains about operands, and tells how to find out more. -/
def misusedPair (call : Call) (message : String) : Work Nat := do
  complain call message
  complain call ("Try '" ++ call.name ++ " --help' for more information.")
  return 2

/-- Does something with the two inputs that operands name, with what stands behind them. -/
def withPair (call : Call) (operands : List String) (most : Nat) (alone : Option String)
    (act : String → String → List String → Work Nat) : Work Nat :=
  match operands, alone with
  | [], _ => misusedPair call ("missing operand after '" ++ call.name ++ "'")
  | [first], none => misusedPair call ("missing operand after '" ++ first ++ "'")
  | [first], some second => act first second []
  | first :: second :: more, _ =>
    match more.drop most with
    | extra :: _ => misusedPair call ("extra operand '" ++ extra ++ "'")
    | [] => act first second more

/-! ## Comparing bytes -/

namespace Difference

/-- Where bytes begin to differ: how many are the same, how many lines end among them, and what follows
in both. -/
def start : List UInt8 → List UInt8 → Nat → Nat → Nat × Nat × List UInt8 × List UInt8
  | a :: as, b :: bs, n, lines =>
    if a == b then start as bs (n + 1) (if a == 10 then lines + 1 else lines)
    else (n, lines, a :: as, b :: bs)
  | as, bs, n, lines => (n, lines, as, bs)

/-- The pairs of bytes that differ, with their places. -/
def pairs : List UInt8 → List UInt8 → Nat → List (Nat × UInt8 × UInt8)
  | a :: as, b :: bs, n => if a == b then pairs as bs (n + 1) else (n, a, b) :: pairs as bs (n + 1)
  | _, _, _ => []

/-- A byte in octal digits. -/
def octal (b : UInt8) : String :=
  let ds := Nat.toDigits 8 b.toNat
  String.ofList (List.replicate (3 - ds.length) ' ' ++ ds)

/-- What is written about the end of an input. -/
def ending (name : String) (bytes : List UInt8) (lists : Bool) : String :=
  let count := bytes.length
  let lines := (bytes.filter (· == 10)).length
  if count == 0 then "EOF on " ++ name ++ " which is empty"
  else
    let place := "EOF on " ++ name ++ " after byte " ++ toString count
    if lists then place
    else if bytes.getLast? == some 10 then place ++ ", line " ++ toString lines
    else place ++ ", in line " ++ toString (lines + 1)

end Difference

/-- Tells where two inputs begin to differ. -/
def cmp : Tool := fun _ call => do
  let spec : Options := {
    letters := "bi:ln:sv"
    names :=
      [("print-bytes", .nothing, 'b'), ("ignore-initial", .required, 'i'), ("verbose", .nothing, 'l'),
        ("bytes", .required, 'n'), ("quiet", .nothing, 's'), ("silent", .nothing, 's')] }
  match readFrom spec (call.arguments.length + 1) call.arguments with
  | .error complaint => misusedPair call complaint
  | .ok given =>
    withPair call given.operands 2 (some "-") fun first second skips => do
      match ← readBoth call (given.has 's') first second with
      | none => return 2
      | some (a, b) =>
        let skip (n : Nat) : Nat := ((skips[n]?.or (given.value? 'i')).bind amountOf?).getD 0
        let (a, b) := (a.drop (skip 0), b.drop (if skips.length == 1 then 0 else skip 1))
        let limit := (given.value? 'n').bind amountOf?
        let cut (bytes : List UInt8) : List UInt8 := (limit.map bytes.take).getD bytes
        let (a, b) := (cut a, cut b)
        let (count, lines, restA, restB) := Difference.start a b 0 0
        let ended (name : String) (bytes : List UInt8) : Work Nat := do
          complain call (Difference.ending name bytes (given.has 'l'))
          return 1
        let shortest : Work Nat :=
          if a.length < b.length then ended first a
          else if b.length < a.length then ended second b
          else return 1
        if restA.isEmpty && restB.isEmpty then return 0
        else if given.has 's' then return 1
        else if given.has 'l' then
          let all := Difference.pairs a b 1
          let width := (toString (min a.length b.length)).length
          let one (d : Nat × UInt8 × UInt8) : String :=
            let n := toString d.1
            String.ofList (List.replicate (width - n.length) ' ') ++ n ++ " " ++
              Difference.octal d.2.1 ++ " " ++ Difference.octal d.2.2 ++ "\n"
          discard (say call (String.join (all.map one)) 1)
          shortest
        else
          match restA, restB with
          | [], _ => ended first a
          | _, [] => ended second b
          | x :: _, y :: _ =>
            let shown (b : UInt8) : String :=
              Difference.octal b ++ " " ++ String.singleton (Bytes.charOf b)
            let bytes := if given.has 'b' then " is " ++ shown x ++ " " ++ shown y else ""
            say call (first ++ " " ++ second ++ " differ: byte " ++ toString (count + 1) ++ ", line " ++
              toString (lines + 1) ++ bytes ++ "\n") 1

/-! ## Comparing lines -/

namespace Difference

/-- Lines of one text that stand in the place of lines of another one. Places begin at zero. -/
structure Change where
  place : Nat
  old : List (List UInt8)
  newPlace : Nat
  new : List (List UInt8)

/-- The greatest number of lines that a text has in common with the ends of another one, for each of
those, where `row` tells them for the text without its first line. -/
def commonRow (same : List UInt8 → List UInt8 → Bool) (line : List UInt8) :
    List (List UInt8) → List Nat → List Nat
  | [], row => row
  | other :: others, row =>
    let rest := commonRow same line others (row.drop 1)
    let best := if same line other then row.tail.headD 0 + 1 else max (row.headD 0) (rest.headD 0)
    best :: rest

/-- The rows for all ends of a text. -/
def commonRows (same : List UInt8 → List UInt8 → Bool) (others : List (List UInt8)) :
    List (List UInt8) → List (List Nat)
  | [] => [List.replicate (others.length + 1) 0]
  | line :: lines =>
    let rows := commonRows same others lines
    commonRow same line others (rows.headD []) :: rows

/-- What becomes of a line. -/
inductive Edit where
  | kept
  | removed (line : List UInt8)
  | added (line : List UInt8)

/-- How to get from one text to another one. -/
def edits (same : List UInt8 → List UInt8 → Bool) :
    Nat → List (List UInt8) → List (List UInt8) → List (List Nat) → List Edit
  | 0, _, _, _ => []
  | _, [], others, _ => others.map .added
  | _, lines, [], _ => lines.map .removed
  | fuel + 1, line :: lines, other :: others, rows =>
    let here := rows.headD []
    let below := rows.tail.headD []
    let right := rows.map (List.drop 1)
    if same line other then .kept :: edits same fuel lines others (right.drop 1)
    else if here.tail.headD 0 ≤ below.headD 0 then
      .removed line :: edits same fuel lines (other :: others) (rows.drop 1)
    else .added other :: edits same fuel (line :: lines) others right

/-- The changes that edits make, after one that may be unfinished. -/
def changesFrom : List Edit → Nat → Nat → Option Change → List Change
  | [], _, _, open? => open?.toList
  | .kept :: es, i, j, open? => open?.toList ++ changesFrom es (i + 1) (j + 1) none
  | .removed line :: es, i, j, open? =>
    let c := open?.getD ⟨i, [], j, []⟩
    changesFrom es (i + 1) j (some { c with old := c.old ++ [line] })
  | .added line :: es, i, j, open? =>
    let c := open?.getD ⟨i, [], j, []⟩
    changesFrom es i (j + 1) (some { c with new := c.new ++ [line] })

/-- A change that only removes or only adds lines, as far down as possible. -/
def Change.lowered (old new : Array (List UInt8)) (limit : Nat) : Nat → Change → Change
  | 0, c => c
  | fuel + 1, c =>
    let next (lines : List (List UInt8)) (all : Array (List UInt8)) (place : Nat) :
        Option (List (List UInt8)) :=
      match lines, all[place + lines.length]? with
      | line :: rest, some following => if line == following then some (rest ++ [following]) else none
      | _, _ => none
    if limit ≤ c.place + c.old.length then c
    else
      match c.old, c.new with
      | [], lines =>
        match next lines new c.newPlace with
        | some lines =>
          Change.lowered old new limit fuel ⟨c.place + 1, [], c.newPlace + 1, lines⟩
        | none => c
      | lines, [] =>
        match next lines old c.place with
        | some lines =>
          Change.lowered old new limit fuel ⟨c.place + 1, lines, c.newPlace + 1, []⟩
        | none => c
      | _, _ => c

/-- Changes as far down as possible, where no change reaches the next one. -/
def lower (old new : Array (List UInt8)) : List Change → List Change
  | [] => []
  | c :: cs =>
    let limit := (cs.head?.map Change.place).getD (old.size + 1)
    c.lowered old new limit (old.size + new.size) :: lower old new cs

/-- The changes from one text to another one. Lines in front of and behind all changes are left out of
the comparison. -/
def changes (same : List UInt8 → List UInt8 → Bool) (old new : List (List UInt8)) : List Change :=
  let front := ((old.zip new).takeWhile fun p => same p.1 p.2).length
  let (a, b) := (old.drop front, new.drop front)
  let back := ((a.reverse.zip b.reverse).takeWhile fun p => same p.1 p.2).length
  let (a, b) := (a.take (a.length - back), b.take (b.length - back))
  let es := edits same (a.length + b.length + 1) a b (commonRows same b a)
  lower old.toArray new.toArray (changesFrom es front front none)

/-- The lines of a range, by their numbers. -/
def rangeText (place count : Nat) : String :=
  if count == 0 then toString place
  else if count == 1 then toString (place + 1)
  else toString (place + 1) ++ "," ++ toString (place + count)

/-- A line of a change. -/
def lineText (sign : String) (line : List UInt8) : List UInt8 :=
  let missing := if line.getLast? == some 10 then "" else "\n\\ No newline at end of file\n"
  Bytes.toBytes sign ++ line ++ Bytes.toBytes missing

/-- A change as it is written. -/
def Change.text (c : Change) : List UInt8 :=
  let kind := if c.old.isEmpty then "a" else if c.new.isEmpty then "d" else "c"
  let parted := if c.old.isEmpty || c.new.isEmpty then "" else "---\n"
  Bytes.toBytes (rangeText c.place c.old.length ++ kind ++ rangeText c.newPlace c.new.length ++ "\n") ++
    c.old.flatMap (lineText "< ") ++ Bytes.toBytes parted ++ c.new.flatMap (lineText "> ")

/-- A line as it counts in a comparison. -/
def normal (given : Given) (line : List UInt8) : List UInt8 :=
  let line := if given.has 'i' then line.map upperByte else line
  if given.has 'w' then line.filter fun b => !isBlankByte b && b != 10
  else if given.has 'b' then
    let ended := (chomp line).reverse.dropWhile isBlankByte
    ended.foldr (fun b done =>
      if isBlankByte b then if done.head? == some 32 then done else 32 :: done else b :: done) []
  else line

end Difference

/-- Tells which lines of two inputs differ. -/
def diff : Tool := fun _ call => do
  let spec : Options := {
    letters := "abBdiqstw"
    names :=
      [("text", .nothing, 'a'), ("ignore-space-change", .nothing, 'b'), ("brief", .nothing, 'q'),
        ("ignore-case", .nothing, 'i'), ("report-identical-files", .nothing, 's'),
        ("ignore-all-space", .nothing, 'w'), ("normal", .nothing, 'N')] }
  match readFrom spec (call.arguments.length + 1) call.arguments with
  | .error complaint => misusedPair call complaint
  | .ok given =>
    withPair call given.operands 0 none fun first second _ => do
      let inside (dir other : String) : Work String := do
        if dir != "-" && (← Work.look fun fs => fs.isDir (pathOf dir)) then
          return dir ++ "/" ++ ((other.splitOn "/").getLast?).getD other
        else return dir
      let (first, second) := (← inside first second, ← inside second first)
      match ← readBoth call false first second with
      | none => return 2
      | some (a, b) =>
        let same (x y : List UInt8) : Bool :=
          Difference.normal given x == Difference.normal given y
        let alike : Work Nat :=
          if given.has 's' then say call ("Files " ++ first ++ " and " ++ second ++ " are identical\n") 0
          else return 0
        let differ (kind : String) : Work Nat :=
          say call (kind ++ " " ++ first ++ " and " ++ second ++ " differ\n") 1
        if a == b then alike
        else if (a ++ b).contains 0 && !given.has 'a' then differ "Binary files"
        else
          let cs := Difference.changes same (linesOf a) (linesOf b)
          if cs.isEmpty then alike
          else if given.has 'q' then differ "Files"
          else put call (cs.flatMap Difference.Change.text) 1

end LintRoster.Machine.Tool
