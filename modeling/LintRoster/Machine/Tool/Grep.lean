import LintRoster.Machine.Tool.Lines
import LintRoster.Regex.Matching
import LintRoster.Regex.Reading
import LintRoster.Shell.Pattern
import LintRoster.Text.Letters

/-!
# Selecting lines

A tool that writes the lines in which a regular expression matches, or counts them, or names the files
that hold them.
-/

namespace LintRoster.Machine.Tool

namespace Grep

/-! ## Queries -/

/-- Which lines are selected. -/
structure Query where
  matchers : List Regex.Matcher
  inverts : Bool

/-- How patterns are read. -/
inductive Language where
  | basic
  | extended
  /-- The extended form with digits and with groups that are not remembered. -/
  | rich
  | fixed
deriving DecidableEq

/-- Whether every line may be shown, text or not. -/
def showsAll (given : Given) : Bool :=
  given.has 'a' || given.value? '?' == some "text"

/-- Whether inputs that are no text are left out. -/
def omitsBinary (given : Given) : Bool :=
  given.has 'I' || given.value? '?' == some "without-match"

/-- The language that options ask for. -/
def languageOf (given : Given) (usual : Language) : Language :=
  match given.last? ['E', 'F', 'G', 'P'] with
  | some 'E' => .extended
  | some 'P' => .rich
  | some 'F' => .fixed
  | some _ => .basic
  | none => usual

/-- The expression for a text that stands for itself. -/
def literal (cs : List Char) : Regex :=
  cs.foldr (fun c e => if e == .empty then .char c else .both (.char c) e) .empty

/-- A pattern of the rich form in the extended one. -/
def plainer : List Char → List Char
  | '\\' :: 'd' :: cs => "[0-9]".toList ++ plainer cs
  | '\\' :: 'D' :: cs => "[^0-9]".toList ++ plainer cs
  | '\\' :: c :: cs => '\\' :: c :: plainer cs
  | '(' :: '?' :: ':' :: cs => '(' :: plainer cs
  | c :: cs => c :: plainer cs
  | [] => []

/-- An expression for a pattern, and what is to be warned of. -/
def expression (language : Language) (pattern : String) : Except Regex.Fault (Regex × List String) :=
  let cs := Letters.ofText pattern
  match language with
  | .fixed => .ok (literal cs, [])
  | .basic => Regex.read ⟨false, false⟩ cs
  | .extended => Regex.read ⟨true, false⟩ cs
  | .rich => Regex.read ⟨true, false⟩ (plainer cs)

/-- An expression that is to match whole words or whole lines. -/
def framed (given : Given) (e : Regex) : Regex :=
  if given.has 'x' then .both (.place .start) (.both e (.place .stop))
  else if given.has 'w' then .both (.place .afterGap) (.both e (.place .beforeGap))
  else e

/-- The query for patterns, and what is to be warned of. -/
def queryFor (given : Given) (language : Language) (patterns : List String) :
    Except Regex.Fault (Query × List String) := do
  let es ← patterns.mapM (expression language)
  let folds := given.has 'i' || given.has 'y'
  let matchers := es.map fun e => Regex.matcher folds (framed given e.1)
  return (⟨matchers, given.has 'v'⟩, (es.map Prod.snd).flatten)

/-- Whether a line is selected. -/
def Query.selects (q : Query) (line : List Char) : Bool :=
  (q.matchers.any fun m => (m.search line 0).isSome) != q.inverts

/-- The first match in a line from a place on, and of those the longest. -/
def Query.first? (q : Query) (line : List Char) (start : Nat) : Option (Nat × Nat) :=
  let found := q.matchers.filterMap fun m => (m.search line start).map Regex.Matcher.ends
  found.foldl (fun best x =>
    match best with
    | none => some x
    | some b => if x.1 < b.1 || (x.1 == b.1 && b.2 < x.2) then some x else some b) none

/-- The matches in a line that are not empty, from a place on. -/
def Query.all (q : Query) (line : List Char) : Nat → Nat → List (Nat × Nat)
  | 0, _ => []
  | fuel + 1, start =>
    match q.first? line start with
    | none => []
    | some (first, last) =>
      if last ≤ first then
        if first < line.length then q.all line fuel (first + 1) else []
      else (first, last) :: q.all line fuel last

/-! ## Going through lines -/

/-- A line with its number and its place among the bytes of an input. -/
structure Numbered where
  number : Nat
  offset : Nat
  bytes : List UInt8

/-- How far one is in an input. -/
structure Progress where
  count : Nat
  offset : Nat
  selected : Nat
  /-- The lines before, as far as they may be shown, last first. -/
  before : List Numbered
  /-- How many lines are still to be shown behind a selected one. -/
  owed : Nat
  lastShown : Option Nat
  isBinary : Bool
  /-- Whether a line was not shown because it is no text. -/
  withheld : Bool

/-- How lines are shown. -/
structure Style where
  given : Given
  query : Query
  named : Bool
  before : Nat
  after : Nat
  limit : Option Nat

/-- The name of an input as it is shown. -/
def inputName (given : Given) (name : String) : String :=
  if name == "-" then (given.value? '@').getD "(standard input)" else name

/-- The name of an input with what stands behind it. -/
def label (given : Given) (name sign : String) : String :=
  inputName given name ++ if given.has 'Z' then "\x00" else sign

/-- What stands in front of a line. -/
def front (s : Style) (name : String) (sign : String) (number offset : Nat) : List UInt8 :=
  let part (wanted : Bool) (text : String) : String := if wanted then text ++ sign else ""
  Bytes.toBytes ((if s.named then label s.given name sign else "") ++
    part (s.given.has 'n') (toString number) ++ part (s.given.has 'b') (toString offset))

/-- Whether a line may be shown. -/
def isShowable (s : Style) (line : Numbered) : Bool :=
  showsAll s.given || (Utf8.decode? line.bytes).isSome

/-- A line as it is shown. -/
def shown (s : Style) (name sign : String) (line : Numbered) : List UInt8 :=
  if isShowable s line then front s name sign line.number line.offset ++ withLineFeed line.bytes
  else []

/-- The matches in a line, as they are shown. -/
def shownMatches (s : Style) (name : String) (line : Numbered) : List UInt8 :=
  let cs := Letters.ofBytes (chomp line.bytes)
  let one (m : Nat × Nat) : List UInt8 :=
    let offset := line.offset + (Letters.toBytes (cs.take m.1)).length
    front s name ":" line.number offset ++
      Letters.toBytes (Regex.Matcher.slice cs m.1 m.2) ++ [10]
  if s.query.inverts then [] else (s.query.all cs (cs.length + 1) 0).flatMap one

/-- Whether nothing but the fact that a line is selected matters. -/
def Style.isBrief (s : Style) : Bool :=
  s.given.has 'q' || s.given.has 'l' || s.given.has 'L'

/-- What is written for a selected line, with the lines around it. -/
def reactSelected (s : Style) (name : String) (p : Progress) (line : Numbered) : Reaction Progress :=
  let p := { p with selected := p.selected + 1 }
  let isLast := s.limit.any (· ≤ p.selected)
  if s.isBrief then ⟨[], p, true⟩
  else if s.given.has 'c' then ⟨[], p, isLast⟩
  else if p.isBinary && !showsAll s.given then ⟨[], { p with withheld := true }, true⟩
  else if s.given.has 'o' then
    ⟨shownMatches s name line, p, isLast⟩
  else
    let lines := p.before.reverse
    let withheld := p.withheld || !((line :: lines).all (isShowable s))
    let firstNumber := (lines.head?.map Numbered.number).getD line.number
    let isApart := p.lastShown.any fun n => n + 1 < firstNumber
    let gap := if (0 < s.before || 0 < s.after) && isApart then Bytes.toBytes "--\n" else []
    let written := gap ++ (lines.flatMap (shown s name "-")) ++ shown s name ":" line
    let p := { p with before := [], owed := s.after, lastShown := some line.number, withheld }
    ⟨written, p, isLast && s.after == 0⟩

/-- What is written for a line. -/
def react (s : Style) (name : String) (p : Progress) (bytes : List UInt8) : Reaction Progress :=
  let line : Numbered := ⟨p.count + 1, p.offset, bytes⟩
  let p := { p with
    count := p.count + 1
    offset := p.offset + bytes.length
    isBinary := p.isBinary || bytes.contains 0 }
  let isOver := s.limit.any (· ≤ p.selected)
  if !isOver && s.query.selects (Letters.ofBytes (chomp bytes)) then reactSelected s name p line
  else if 0 < p.owed then
    let withheld := p.withheld || (!s.given.has 'o' && !isShowable s line)
    let p := { p with owed := p.owed - 1, lastShown := some line.number, withheld }
    let written := if s.given.has 'o' then [] else shown s name "-" line
    ⟨written, p, isOver && p.owed == 0⟩
  else ⟨[], { p with before := (line :: p.before).take s.before }, isOver⟩

/-! ## Inputs -/

/-- What came of one input: whether a line was selected, and whether there was a fault. -/
structure Result where
  selected : Bool
  failed : Bool
  stops : Bool

/-- Goes through a stream. -/
def searchStream (call : Call) (s : Style) (name : String) (stream : Nat) : Work Result := do
  let first := (← Work.ask (.read stream Work.portion)).toOption.getD []
  let binary := first.contains 0
  if binary && omitsBinary s.given then return ⟨false, false, false⟩
  let start : Progress := ⟨0, 0, 0, [], 0, none, binary, false⟩
  let r ← streamLines call stream (react s name) Work.rounds start first
  let selected := r.state.selected
  if !s.given.has 'q' then
    if s.given.has 'l' then
      if 0 < selected then discard (writeTo 1 (label s.given name "\n"))
    else if s.given.has 'L' then
      if selected == 0 then discard (writeTo 1 (label s.given name "\n"))
    else if s.given.has 'c' then
      let front := if s.named then label s.given name ":" else ""
      discard (writeTo 1 (front ++ toString selected ++ "\n"))
    else if r.state.withheld then
      complain call (inputName s.given name ++ ": binary file matches")
  return ⟨0 < selected, false, s.given.has 'q' && 0 < selected⟩

/-- Goes through an input. -/
def searchInput (call : Call) (s : Style) (name : String) : Work Result := do
  let failed (fault : FileFault) : Work Result := do
    if fault == .isDirectory && s.given.value? 'd' == some "skip" then return ⟨false, false, false⟩
    if !s.given.has 's' then complain call (name ++ ": " ++ fault.summary)
    return ⟨false, true, false⟩
  match ← openInput name with
  | .error fault => failed fault
  | .ok stream =>
    match ← Work.ask (.read stream 0) with
    | .error fault =>
      closeInput stream
      failed fault
    | .ok _ =>
      let isOwn ←
        if s.isBrief || s.given.has 'c' then pure false
        else
          match ← Work.ask (.place stream), ← Work.ask (.place 1) with
          | some place, some target => pure (place == target)
          | _, _ => pure false
      if isOwn then
        closeInput stream
        complain call (inputName s.given name ++ ": input file is also the output")
        return ⟨false, true, false⟩
      else
        let result ← searchStream call s name stream
        closeInput stream
        return result

/-- Goes through inputs. -/
def searchAll (call : Call) (s : Style) : List String → Bool → Bool → Work Nat
  | [], selected, failed => return if failed then 2 else if selected then 0 else 1
  | name :: names, selected, failed => do
    let r ← searchInput call s name
    if r.stops then return 0
    else searchAll call s names (selected || r.selected) (failed || r.failed)

/-- Whether a pattern stands for a name. -/
def fitsName (pattern name : String) : Bool :=
  Shell.Pattern.fits (Shell.Pattern.ofSigns (pattern.toList.map fun c => ⟨c, true⟩)) name.toList

mutual

/-- The files in a tree. -/
def filesIn (given : Given) (path : String) : Node → List String
  | .file _ _ => [path]
  | .link _ => if given.has 'R' then [path] else []
  | .dir d => filesBelow given path d

/-- The files in the entries of a directory. -/
def filesBelow (given : Given) (path : String) : Directory → List String
  | .empty => []
  | .entry name node rest =>
    let name := Bytes.ofText name
    let full := if path == "" then name else if path.toList.getLast? == some '/' then path ++ name
      else path ++ "/" ++ name
    let omitted := node matches .dir _ && (given.values '/').any fun p => fitsName p name
    (if omitted then [] else filesIn given full node) ++ filesBelow given path rest

end

/-- Whether options let a file be searched. -/
def isWanted (given : Given) (path : String) : Bool :=
  let name := ((path.splitOn "/").getLast?).getD path
  let included := given.values '+'
  (included.isEmpty || included.any fun p => fitsName p name) &&
    !((given.values '!').any fun p => fitsName p name)

/-- Whether directories are gone through. -/
def isRecursive (given : Given) : Bool :=
  given.has 'r' || given.has 'R' || given.value? 'd' == some "recurse"

/-- The inputs of a search. -/
def targets (given : Given) (operands : List String) (fs : FileSystem) : List String :=
  if !isRecursive given then if operands.isEmpty then ["-"] else operands
  else
    let isFile (path : String) : Bool := (fs.stat (pathOf path)).toOption.any (!·.2 matches .dir _)
    let expand (path : String) : List String :=
      match fs.stat (pathOf path) with
      | .ok (_, .dir d) => (filesBelow given path d).filter fun p => isWanted given p && isFile p
      | _ => [path]
    if operands.isEmpty then
      match fs.stat ⟨"."⟩ with
      | .ok (_, .dir d) => (filesBelow given "" d).filter fun p => isWanted given p && isFile p
      | _ => []
    else operands.flatMap expand

/-! ## The tool -/

/-- The line about the usage of the tool. -/
def usage (call : Call) : String :=
  "Usage: " ++ call.name ++ " [OPTION]... PATTERNS [FILE]...\n"

/-- The options of the tool. -/
def spec (call : Call) : Options where
  letters := "A:abB:cC:d:D:Ee:f:FGhHiIlLm:noPqrRsTUvVwxyzZ"
  names :=
    [("basic-regexp", .nothing, 'G'), ("extended-regexp", .nothing, 'E'),
      ("fixed-regexp", .nothing, 'F'), ("fixed-strings", .nothing, 'F'),
      ("perl-regexp", .nothing, 'P'), ("after-context", .required, 'A'),
      ("before-context", .required, 'B'), ("binary-files", .required, '?'),
      ("byte-offset", .nothing, 'b'), ("context", .required, 'C'), ("color", .optional, 'k'),
      ("colour", .optional, 'k'), ("count", .nothing, 'c'), ("devices", .required, 'D'),
      ("directories", .required, 'd'), ("exclude", .required, '!'),
      ("exclude-dir", .required, '/'), ("file", .required, 'f'),
      ("files-with-matches", .nothing, 'l'), ("files-without-match", .nothing, 'L'),
      ("include", .required, '+'), ("ignore-case", .nothing, 'i'), ("label", .required, '@'),
      ("line-buffered", .nothing, 'U'), ("line-number", .nothing, 'n'),
      ("line-regexp", .nothing, 'x'), ("max-count", .required, 'm'), ("no-filename", .nothing, 'h'),
      ("no-messages", .nothing, 's'), ("null", .nothing, 'Z'), ("only-matching", .nothing, 'o'),
      ("quiet", .nothing, 'q'), ("recursive", .nothing, 'r'),
      ("dereference-recursive", .nothing, 'R'), ("regexp", .required, 'e'),
      ("invert-match", .nothing, 'v'), ("silent", .nothing, 'q'), ("text", .nothing, 'a'),
      ("binary", .nothing, 'U'), ("with-filename", .nothing, 'H'), ("word-regexp", .nothing, 'w')]
  usage := usage call

/-- The patterns in a text, one on each line. -/
def patternsIn (text : String) : List String :=
  text.splitOn "\n"

/-- The patterns in files. -/
def patternsOf (call : Call) : List String → Work (Option (List String))
  | [] => return some []
  | name :: names => do
    match ← slurp name with
    | .error fault =>
      complain call (name ++ ": " ++ fault.summary)
      return none
    | .ok bytes =>
      let lines := (linesOf bytes).map lineText
      return (← patternsOf call names).map (lines ++ ·)

/-- The number of lines around selected ones that an option asks for. -/
def contextOf (given : Given) (c : Char) : Except String Nat :=
  match (given.value? c).or (given.value? 'C') with
  | none => .ok 0
  | some w =>
    match w.toNat? with
    | some n => .ok n
    | none => .error (w ++ ": invalid context length argument")

/-- Carries out a search. -/
def carryOut (call : Call) (usual : Language) (given : Given) (patterns operands : List String) :
    Work Nat := do
  let failed (complaint : String) : Work Nat := do
    complain call complaint
    return 2
  let isLoose (p : String) : Bool :=
    p.toList.take 2 == ['[', ':'] && p.toList.reverse.take 2 == [']', ':']
  let language := languageOf given usual
  if language != .fixed && patterns.any isLoose then
    failed "character class syntax is [[:space:]], not [:space:]"
  else
    match contextOf given 'A', contextOf given 'B' with
    | .error complaint, _ | _, .error complaint => failed complaint
    | .ok after, .ok before =>
      match (given.value? 'm').map fun w => w.toInt? with
      | some none => failed "invalid max count"
      | limit =>
        match queryFor given language patterns with
        | .error fault => failed fault.message
        | .ok (query, idle) =>
          for name in idle do
            complain call ("warning: " ++ name ++ " at start of expression")
          let names ← Work.look (targets given operands)
          let ofTree := isRecursive given && (operands.isEmpty || names != operands)
          let several := operands.length > 1 || ofTree
          let named :=
            match given.last? ['h', 'H'] with
            | some c => c == 'H'
            | none => several
          let limit := limit.join.bind fun n => if n < 0 then none else some n.toNat
          if limit == some 0 then return 1
          searchAll call ⟨given, query, named, before, after, limit⟩ names false false

/-- Selects lines, with patterns in a language. -/
def tool (usual : Language) : Tool := fun _ given => do
  let arguments := given.arguments.map fun w =>
    match w.toList with
    | '-' :: c :: cs => if (c :: cs).all Char.isDigit then "-C" ++ String.ofList (c :: cs) else w
    | _ => w
  let call : Call := { given with name := "grep", arguments }
  withOptions call (spec call) 2 fun given => do
    match ← patternsOf call (given.values 'f') with
    | none => return 2
    | some fromFiles =>
      let written := (given.values 'e').flatMap patternsIn
      if given.has 'e' || given.has 'f' then
        carryOut call usual given (written ++ fromFiles) given.operands
      else
        match given.operands with
        | [] =>
          discard (writeTo 2 (usage call))
          hint call
          return 2
        | pattern :: operands => carryOut call usual given (patternsIn pattern) operands

end Grep

/-- Selects lines by expressions in the basic form. -/
def grep : Tool := Grep.tool .basic

/-- Selects lines by expressions in the extended form. -/
def egrep : Tool := Grep.tool .extended

/-- Selects lines by texts. -/
def fgrep : Tool := Grep.tool .fixed

end LintRoster.Machine.Tool
