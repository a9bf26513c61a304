/-!
# Patterns of the shell

In a pattern a star stands for any text, a question mark for any character and brackets for one
character of a set. Characters that were quoted stand for themselves.
-/

namespace LintRoster.Shell

/-- A character of a word that was expanded, and whether it may have a meaning beyond itself. -/
structure Sign where
  char : Char
  active : Bool
deriving DecidableEq, Repr

namespace Pattern

/-- An element of a set of characters. -/
inductive Member where
  | one (c : Char)
  | range (low high : Char)
  | kind (name : String)
deriving DecidableEq, Repr

/-- A unit of a pattern. -/
inductive Piece where
  | char (c : Char)
  | anyChar
  | anyText
  | set (negated : Bool) (members : List Member)
deriving DecidableEq, Repr

/-! ## Kinds of characters -/

/-- Whether a character is visible and no blank. -/
def isGraphic (c : Char) : Bool :=
  0x21 ≤ c.toNat && c.toNat ≤ 0x7e

/-- Whether a character is a blank of any sort. -/
def isSpace (c : Char) : Bool :=
  c == ' ' || (9 ≤ c.toNat && c.toNat ≤ 13)

/-- The kinds of characters that have names. -/
def kinds : List (String × (Char → Bool)) := [
  ("alnum", Char.isAlphanum),
  ("alpha", Char.isAlpha),
  ("blank", fun c => c == ' ' || c == '\t'),
  ("cntrl", fun c => c.toNat < 0x20 || c.toNat == 0x7f),
  ("digit", Char.isDigit),
  ("graph", isGraphic),
  ("lower", Char.isLower),
  ("print", fun c => c == ' ' || isGraphic c),
  ("punct", fun c => isGraphic c && !c.isAlphanum),
  ("space", isSpace),
  ("upper", Char.isUpper),
  ("xdigit", fun c => c.isDigit || ('a' ≤ c && c ≤ 'f') || ('A' ≤ c && c ≤ 'F'))]

/-- Whether a character is of the kind with a name. -/
def isOfKind (name : String) (c : Char) : Bool :=
  ((kinds.find? fun kind => kind.1 == name).map Prod.snd).any fun holds => holds c

/-! ## Reading patterns -/

/-- Signs without the backslashes that take the meaning of what follows them. -/
def settle : List Sign → List Sign
  | ⟨'\\', true⟩ :: s :: rest => ⟨s.char, false⟩ :: settle rest
  | [⟨'\\', true⟩] => [⟨'\\', false⟩]
  | s :: rest => s :: settle rest
  | [] => []

/-- The kind of characters that signs name, after an opening bracket, and what follows. -/
def kind? (signs : List Sign) : Option (Member × List Sign) :=
  kinds.findSome? fun (name, _) =>
    let written := (":" ++ name ++ ":]").toList.map fun c => (⟨c, true⟩ : Sign)
    if written.isPrefixOf signs then some (.kind name, signs.drop written.length) else none

/-- One member of a set, and what follows it. -/
def member? : List Sign → Option (Member × List Sign)
  | [] => none
  | s :: rest =>
    match if s == ⟨'[', true⟩ then kind? rest else none with
    | some found => some found
    | none =>
      match rest with
      | ⟨'-', true⟩ :: high :: after =>
        if high == ⟨']', true⟩ then some (.one s.char, rest)
        else some (.range s.char high.char, after)
      | rest => some (.one s.char, rest)

/-- The members of a set up to its closing bracket, after those in `before`. A bracket in the first
place closes nothing. -/
def membersFrom : Nat → List Member → List Sign → Option (List Member × List Sign)
  | 0, _, _ => none
  | fuel + 1, before, signs =>
    match member? signs with
    | none => none
    | some (m, ⟨']', true⟩ :: rest) => some (before ++ [m], rest)
    | some (m, rest) => membersFrom fuel (before ++ [m]) rest

/-- Reads a set after its opening bracket. -/
def set? : List Sign → Option (Piece × List Sign)
  | ⟨'!', true⟩ :: rest =>
    (membersFrom rest.length [] rest).map fun (ms, rest) => (.set true ms, rest)
  | signs => (membersFrom signs.length [] signs).map fun (ms, rest) => (.set false ms, rest)

/-- The pieces of a pattern. -/
def pieces : Nat → List Sign → List Piece
  | 0, _ => []
  | _, [] => []
  | fuel + 1, s :: rest =>
    if !s.active then .char s.char :: pieces fuel rest
    else if s.char == '*' then .anyText :: pieces fuel rest
    else if s.char == '?' then .anyChar :: pieces fuel rest
    else if s.char == '[' then
      match set? rest with
      | some (piece, rest) => piece :: pieces fuel rest
      | none => .char '[' :: pieces fuel rest
    else .char s.char :: pieces fuel rest

/-- The pieces of a pattern. -/
def ofSigns (signs : List Sign) : List Piece :=
  pieces (signs.length + 1) (settle signs)

/-! ## Matching -/

/-- The place of a byte in the order of ranges, in which the upper half comes first. -/
def rank (c : Char) : Nat :=
  (c.toNat + 128) % 256

/-- Whether a character is in a set. -/
def Member.has (c : Char) : Member → Bool
  | .one d => c == d
  | .range low high => rank low ≤ rank c && rank c ≤ rank high
  | .kind name => isOfKind name c

/-- The ends of a text, longest first. -/
def ends : List Char → List (List Char)
  | [] => [[]]
  | c :: cs => (c :: cs) :: ends cs

/-- Whether a pattern fits a whole text. -/
def fits : List Piece → List Char → Bool
  | [], cs => cs.isEmpty
  | [.anyText], _ => true
  | .anyText :: .anyText :: ps, cs => fits (.anyText :: ps) cs
  | .anyText :: ps, cs => (ends cs).any (fits ps)
  | .char c :: ps, d :: cs => c == d && fits ps cs
  | .anyChar :: ps, _ :: cs => fits ps cs
  | .set negated ms :: ps, d :: cs => (ms.any (Member.has d) != negated) && fits ps cs
  | _ :: _, [] => false

/-- The text without its longest or shortest end that fits a pattern. -/
def cutEnd (longest : Bool) (ps : List Piece) (cs : List Char) : List Char :=
  let cuts := List.range (cs.length + 1)
  match (if longest then cuts else cuts.reverse).find? fun n => fits ps (cs.drop n) with
  | some n => cs.take n
  | none => cs

/-- The text without its longest or shortest beginning that fits a pattern. -/
def cutStart (longest : Bool) (ps : List Piece) (cs : List Char) : List Char :=
  let cuts := List.range (cs.length + 1)
  match (if longest then cuts.reverse else cuts).find? fun n => fits ps (cs.take n) with
  | some n => cs.drop n
  | none => cs

/-- Whether any character of a pattern has a meaning beyond itself. -/
def isActive (signs : List Sign) : Bool :=
  signs.any fun s => s.active && ['*', '?', '['].contains s.char

end Pattern

end LintRoster.Shell
