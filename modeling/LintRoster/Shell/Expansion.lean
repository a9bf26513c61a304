import LintRoster.Shell.Arithmetic
import LintRoster.Shell.Field
import LintRoster.Shell.Glob

/-!
# Expansion of words

A word expands to stretches: its text, and what its parameters, commands and expressions give. From
stretches come fields, of which those that are patterns become the paths that fit, or one text, or a
pattern. Commands in words are carried out by a function `capture`, which gives their output.
-/

namespace LintRoster.Shell

/-- What a word is expanded for. -/
structure Aim where
  /-- Whether the word falls apart into fields. -/
  fields : Bool
  /-- Whether text falls apart too, if it is not quoted. -/
  splitsText : Bool
  /-- Whether the word is the value of an assignment, where a tilde may also follow a colon. -/
  assigns : Bool

namespace Aim

/-- A word that becomes one text. -/
def text : Aim :=
  ⟨false, false, false⟩

/-- A word of a command. -/
def words : Aim :=
  ⟨true, false, false⟩

/-- The value of an assignment. -/
def value : Aim :=
  ⟨false, false, true⟩

/-- A word that takes the place of a parameter. -/
def within (aim : Aim) : Aim :=
  { aim with splitsText := true }

end Aim

namespace Expansion

/-! ## Tildes -/

/-- A piece of a text, and whether it counts as quoted. -/
abbrev Piece :=
  String × Bool

/-- The directory that the name after a tilde stands for. -/
def homeOf? (home : Option String) (name : String) : Option String :=
  if name == "" then home else if name == "root" then some "/root" else none

/-- The pieces of a text with a tilde in front. Whether the name after it may end with the text is
told by `closed`. -/
def tildeText (home : Option String) (assigns closed : Bool) (cs : List Char) : List Piece :=
  let whole := [(String.ofList cs, false)]
  match cs with
  | '~' :: cs =>
    let isEnd (c : Char) : Bool := c == '/' || (assigns && c == ':')
    let name := cs.takeWhile fun c => !isEnd c
    let rest := cs.dropWhile fun c => !isEnd c
    if rest.isEmpty && !closed then whole
    else
      match homeOf? home (String.ofList name) with
      | none => whole
      | some dir => (dir, true) :: if rest.isEmpty then [] else [(String.ofList rest, false)]
  | _ => whole

/-- A text cut behind its colons. -/
def colonPieces : List Char → List (List Char)
  | [] => [[]]
  | c :: cs =>
    match colonPieces cs with
    | [] => [[c]]
    | piece :: pieces => if c == ':' then [c] :: piece :: pieces else (c :: piece) :: pieces

/-- The pieces of a text with tildes after its colons. -/
def colonTildes (home : Option String) (closed : Bool) : List (List Char) → List Piece
  | [] => []
  | [cs] => tildeText home true closed cs
  | cs :: more => tildeText home true true cs ++ colonTildes home closed more

/-- The pieces of a text with its tildes replaced. Only at the beginning of a word does a tilde count
that follows no colon. -/
def tildes (home : Option String) (assigns isFirst closed : Bool) (s : String) : List Piece :=
  if !s.toList.contains '~' then [(s, false)]
  else if assigns then
    match colonPieces s.toList with
    | first :: more =>
      if isFirst then colonTildes home closed (first :: more)
      else (String.ofList first, false) :: colonTildes home closed more
    | [] => []
  else if isFirst then tildeText home false closed s.toList
  else [(s, false)]

/-! ## Parameters -/

/-- What a parameter holds. -/
inductive Held where
  | unset
  | one (s : String)
  | all (arguments : List String)

/-- The order in which the letters of options are listed. -/
def optionLetters : List Char :=
  ['e', 'f', 'I', 'i', 'm', 'n', 's', 'x', 'v', 'V', 'E', 'C', 'a', 'b', 'u']

/-- What the parameter with a name holds. -/
def held (s : State) (name : String) : Held :=
  match name.toList with
  | ['@'] | ['*'] => .all s.arguments
  | ['#'] => .one (toString s.arguments.length)
  | ['?'] => .one (toString s.status)
  | ['$'] => .one (toString s.processId)
  | ['!'] =>
    match s.lastJob with
    | some id => .one (toString id)
    | none => .unset
  | ['-'] => .one (String.ofList (optionLetters.reverse.filter s.options.contains))
  | cs =>
    let value :=
      if cs.all Char.isDigit then
        match name.toNat? with
        | some 0 => some s.name
        | some (n + 1) => s.arguments[n]?
        | none => none
      else s.value? name
    match value with
    | some v => .one v
    | none => .unset

/-- What stands between two arguments. -/
def between (s : State) (aim : Aim) (name : String) (quoted : Bool) : List Atom :=
  if name == "@" && quoted && aim.fields then [.border]
  else
    match s.value? "IFS" with
    | none => [Atom.ofChar quoted ' ']
    | some ifs =>
      if aim.fields && !quoted then [.border]
      else (ifs.toList.take 1).map (Atom.ofChar quoted)

/-- The atoms of what a parameter holds. There are none if it is unset. -/
def atoms? (s : State) (aim : Aim) (name : String) (quoted : Bool) : Option (List Atom) :=
  match held s name with
  | .unset => none
  | .one v => some (Atom.ofText quoted v)
  | .all arguments =>
    some ((arguments.map (Atom.ofText quoted)).intersperse (between s aim name quoted)).flatten

/-- The stretch of a parameter. Quoted values do not fall apart, but a list of arguments does. -/
def stretchOf (s : State) (name : String) (quoted : Bool) (atoms : List Atom) : Stretch where
  atoms := atoms
  splits :=
    if !quoted then .atSeparators
    else if name == "@" && !s.arguments.isEmpty then .atBorders
    else .never

/-- Reports that a parameter is not set. -/
def refuseUnset {α : Type} (name complaint : String) : Sh α :=
  Sh.fault (name ++ ": " ++ complaint)

/-- What of the atoms of a value is left without what a pattern fits. -/
def withoutFit (cut : List Pattern.Piece → List Char → List Char) (fromEnd : Bool)
    (pattern : List Sign) (atoms : List Atom) : List Atom :=
  let charOf (a : Atom) : Char := (a.sign?.map Sign.char).getD '\x00'
  let left := (cut (Pattern.ofSigns pattern) (atoms.map charOf)).length
  if fromEnd then atoms.take left else atoms.drop (atoms.length - left)

/-- The atoms of stretches. -/
def atomsOf (xs : List Stretch) : List Atom :=
  xs.flatMap Stretch.atoms

/-- The signs of stretches. -/
def signsOf (xs : List Stretch) : List Sign :=
  Atom.signs (atomsOf xs)

/-- The text of stretches. -/
def textOf (xs : List Stretch) : String :=
  Atom.text (atomsOf xs)

/-- A text without the line feeds at its end. -/
def withoutLastLines (s : String) : String :=
  String.ofList (s.toList.reverse.dropWhile (· == '\n')).reverse

/-- The stretch of written text. Quotes leave a mark even if there is nothing between them. -/
def written (aim : Aim) (s : String) (quoted : Bool) : Stretch where
  atoms := if quoted then .mark :: Atom.ofText true s else Atom.ofText false s
  splits := if aim.splitsText && !quoted then .atSeparators else .never

/-- The stretch of a text that took the place of an expansion. -/
def given (s : String) (quoted : Bool) : Stretch where
  atoms := Atom.ofText quoted s
  splits := if quoted then .never else .atSeparators

/-- What is present of a parameter. Where `notEmpty` is set, nothing is not enough. -/
def present? (notEmpty : Bool) (atoms : Option (List Atom)) : Option (List Atom) :=
  atoms.filter fun atoms => !(notEmpty && atoms.isEmpty)

/-- The atoms of what a parameter holds. It may be a fault if there are none. -/
def required (aim : Aim) (name : String) (quoted : Bool) : Sh (Option (List Atom)) := do
  let s ← get
  let atoms := atoms? s aim name quoted
  if atoms.isNone && s.options.contains 'u' then refuseUnset name "parameter not set"
  return atoms

/-- The stretch of a parameter, if there is anything. -/
def stretchesOf (name : String) (quoted : Bool) (atoms : Option (List Atom)) :
    Sh (List Stretch) := do
  let s ← get
  return (atoms.map (stretchOf s name quoted)).toList

/-- The complaint about a parameter that is missing. -/
def missing {α : Type} (name : String) (notEmpty : Bool) (complaint : Option String) : Sh α :=
  let usual := "parameter not set" ++ if notEmpty then " or null" else ""
  refuseUnset name (complaint.getD usual)

variable (capture : Statement → Sh String)

mutual

/-- The stretches of a part. -/
def part (aim : Aim) : Part → Sh (List Stretch)
  | .text s quoted => return [written aim s quoted]
  | .command body quoted => return [given (withoutLastLines (← capture body)) quoted]
  | .arithmetic body quoted => do
    let text := textOf (← parts Aim.text false body)
    return [given (toString (← Arithmetic.evaluate text)) quoted]
  | .parameter name change quoted => parameter aim name quoted change

/-- The stretches of parts, in order. The first of them may begin a word. -/
def parts (aim : Aim) (isFirst : Bool) : List Part → Sh (List Stretch)
  | [] => return []
  | .text s false :: rest => do
    let pieces := tildes ((← get).value? "HOME") aim.assigns isFirst rest.isEmpty s
    let xs := pieces.map fun (s, quoted) =>
      if quoted then ⟨Atom.ofText true s, .never⟩ else written aim s false
    return xs ++ (← parts aim false rest)
  | p :: rest => do
    let xs ← part aim p
    return xs ++ (← parts aim false rest)

/-- The stretches of a parameter with a change. -/
def parameter (aim : Aim) (name : String) (quoted : Bool) : Change → Sh (List Stretch)
  | .malformed => Sh.fault "Bad substitution"
  | .keep => do stretchesOf name quoted (← required aim name quoted)
  | .length => do
    let atoms ← required aim name quoted
    let count := toString (atoms.getD []).length
    stretchesOf name quoted (some (Atom.ofText quoted count))
  | .orDefault notEmpty w => do
    match present? notEmpty (atoms? (← get) aim name quoted) with
    | some atoms => stretchesOf name quoted (some atoms)
    | none => parts aim.within true w
  | .ifSet notEmpty w => do
    match present? notEmpty (atoms? (← get) aim name quoted) with
    | some _ => parts aim.within true w
    | none => stretchesOf name quoted (some [])
  | .orAssign notEmpty w => do
    match present? notEmpty (atoms? (← get) aim name quoted) with
    | some atoms => stretchesOf name quoted (some atoms)
    | none =>
      Sh.assignNamed name (textOf (← parts Aim.text true w))
      stretchesOf name quoted (← required aim name quoted)
  | .orFail notEmpty w => do
    match present? notEmpty (atoms? (← get) aim name quoted) with
    | some atoms => stretchesOf name quoted (some atoms)
    | none =>
      let complaint := textOf (← parts Aim.text true w)
      missing name notEmpty (if w.isEmpty then none else some complaint)
  | .cutEnd longest w => do
    match ← required aim name quoted with
    | none => return []
    | some atoms =>
      let pattern := signsOf (← parts Aim.text true w)
      stretchesOf name quoted (some (withoutFit (Pattern.cutEnd longest) true pattern atoms))
  | .cutStart longest w => do
    match ← required aim name quoted with
    | none => return []
    | some atoms =>
      let pattern := signsOf (← parts Aim.text true w)
      stretchesOf name quoted (some (withoutFit (Pattern.cutStart longest) false pattern atoms))

end

/-! ## Whole words -/

/-- The text of a word. -/
def text (aim : Aim) (w : Word) : Sh String := do
  return textOf (← parts capture aim true w)

/-- The signs of a word that is a pattern. -/
def pattern (w : Word) : Sh (List Sign) := do
  return signsOf (← parts capture Aim.text true w)

/-- The text of a document, in which no tilde counts. -/
def document (w : Word) : Sh String := do
  return textOf (← parts capture Aim.text false w)

/-- The paths that a field stands for, or its text. -/
def pathsOf (fs : FileSystem) (field : List Atom) : List String :=
  let signs := Atom.signs field
  match if Pattern.isActive signs then Glob.paths fs signs else [] with
  | [] => [Atom.text field]
  | paths => paths

/-- The fields of a word. -/
def fields (w : Word) : Sh (List String) := do
  let xs ← parts capture Aim.words true w
  let fields := splitFields (← get).separators none xs
  if ← Sh.isOn 'f' then return fields.map Atom.text
  else if fields.any fun field => Pattern.isActive (Atom.signs field) then
    Sh.look fun fs => fields.flatMap (pathsOf fs)
  else return fields.map Atom.text

end Expansion

end LintRoster.Shell
