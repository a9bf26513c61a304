import LintRoster.Toml.Moment
import LintRoster.Toml.Numeral
import LintRoster.Toml.Quoted

/-!
# TOML statements

A document is a list of statements: assignments of a value to a dotted key, headers that open a
table, and headers that add a table to an array of tables. Reading a value needs no knowledge of the
statements before it.
-/

namespace LintRoster.Toml

/-- A line of a document that says something. -/
inductive Statement where
  | assign (path : List String) (name : String) (item : Item)
  | openTable (path : List String) (name : String)
  | addTable (path : List String) (name : String)

/-- How many collections may be nested, and how many names a key may have. -/
def nestingLimit : Nat := 79

/-- The characters of a key without quotes. -/
def isBareChar (c : Char) : Bool :=
  c.isAlphanum || c == '-' || c == '_'

/-- Reads one name of a key. -/
def name (cs : List Char) : Step String :=
  match Quoted.onLine? cs with
  | some step => step
  | none =>
    let bare := cs.takeWhile isBareChar
    if bare.isEmpty then .error .malformedKey else .ok (String.ofList bare, cs.dropWhile isBareChar)

/-- Reads the names of a key, with points and blanks between them. -/
def names : Nat → List Char → Step (List String)
  | 0, _ => .error .tooDeep
  | fuel + 1, cs =>
    match name (skipBlanks cs) with
    | .error e => .error e
    | .ok (first, rest) =>
      match skipBlanks rest with
      | '.' :: rest =>
        match names fuel rest with
        | .error e => .error e
        | .ok (others, rest) => .ok (first :: others, rest)
      | rest => .ok ([first], rest)

/-- A key: the names before the last one, and the last one. -/
def key (cs : List Char) : Step (List String × String) :=
  match names nestingLimit cs with
  | .error e => .error e
  | .ok (ns, rest) =>
    match ns.getLast? with
    | none => .error .malformedKey
    | some last => .ok ((ns.dropLast, last), rest)

/-- Reads a key and, after an equals sign, its value. -/
def assignment (value : List Char → Step Item) (cs : List Char) :
    Step (List String × String × Item) :=
  match key cs with
  | .error e => .error e
  | .ok ((path, name), '=' :: rest) =>
    match value (skipBlanks rest) with
    | .error e => .error e
    | .ok (item, rest) => .ok ((path, name, item), rest)
  | .ok _ => .error .malformedKey

/-- Reads the items of an array after its opening, up to its end. There may be a comma after the last
item. -/
def arrayItems (value : List Char → Step Item) : Nat → List Char → Step (List Item)
  | 0, _ => .error .unfinishedCollection
  | fuel + 1, cs =>
    match skipBetween cs with
    | ']' :: rest => .ok ([], rest)
    | cs =>
      match value cs with
      | .error e => .error e
      | .ok (item, rest) =>
        match skipBetween rest with
        | ']' :: rest => .ok ([item], rest)
        | ',' :: rest =>
          match arrayItems value fuel rest with
          | .error e => .error e
          | .ok (items, rest) => .ok (item :: items, rest)
        | _ => .error .unfinishedCollection

/-- Reads the assignments of an inline table, at least one, up to its end. -/
def inlineAssignments (value : List Char → Step Item) :
    Nat → List Char → Step (List (List String × String × Item))
  | 0, _ => .error .unfinishedCollection
  | fuel + 1, cs =>
    match assignment value cs with
    | .error e => .error e
    | .ok (first, rest) =>
      match skipBlanks rest with
      | '}' :: rest => .ok ([first], rest)
      | ',' :: rest =>
        match inlineAssignments value fuel rest with
        | .error e => .error e
        | .ok (others, rest) => .ok (first :: others, rest)
      | _ => .error .unfinishedCollection

/-- Reads an array after its opening. -/
def array (value : List Char → Step Item) (cs : List Char) : Step Item :=
  match arrayItems value (cs.length + 1) cs with
  | .error e => .error e
  | .ok (items, rest) => .ok (.array false items, rest)

/-- Reads an inline table after its opening. -/
def inlineTable (value : List Char → Step Item) (cs : List Char) : Step Item :=
  match skipBlanks cs with
  | '}' :: rest => .ok (.table .inline [], rest)
  | cs =>
    match inlineAssignments value (cs.length + 1) cs with
    | .error e => .error e
    | .ok (assignments, rest) =>
      match Item.assignAll [] assignments with
      | .error e => .error e
      | .ok entries => .ok (.table .inline entries, rest)

/-- Reads a value that begins like a moment or a number. -/
def numeric (cs : List Char) : Step Item :=
  match Moment.read? cs with
  | some (text, rest) => .ok (.moment text, rest)
  | none => Numeral.read cs

/-- Whether a character begins a moment or a number. -/
def isNumericStart (c : Char) : Bool :=
  c.isDigit || c == '+' || c == '-' || c == 'i' || c == 'n'

/-- Reads a value that is no collection. -/
def scalar (cs : List Char) : Step Item :=
  match Quoted.any? cs with
  | some step => step.map fun (s, rest) => (.string s, rest)
  | none =>
    match cs with
    | 't' :: 'r' :: 'u' :: 'e' :: rest => .ok (.boolean true, rest)
    | 'f' :: 'a' :: 'l' :: 's' :: 'e' :: rest => .ok (.boolean false, rest)
    | c :: rest => if isNumericStart c then numeric (c :: rest) else .error .malformedValue
    | [] => .error .malformedValue

/-- Reads a value whose collections are nested at most `depth` deep. -/
def value : Nat → List Char → Step Item
  | 0, cs =>
    match cs with
    | '[' :: _ | '{' :: _ => .error .tooDeep
    | cs => scalar cs
  | depth + 1, cs =>
    match cs with
    | '[' :: rest => array (value depth) rest
    | '{' :: rest => inlineTable (value depth) rest
    | cs => scalar cs

/-- Reads the rest of a header, up to its closing brackets and the end of the line. -/
def header (make : List String → String → Statement) (cs : List Char)
    (close : List Char → Option (List Char)) : Step Statement :=
  match key cs with
  | .error e => .error e
  | .ok ((path, name), rest) =>
    match close rest with
    | none => .error .malformedHeader
    | some rest => (lineEnd? rest).map fun rest => (make path name, rest)

/-- The characters after one closing bracket. -/
def closeOne : List Char → Option (List Char)
  | ']' :: rest => some rest
  | _ => none

/-- The characters after two closing brackets. -/
def closeTwo : List Char → Option (List Char)
  | ']' :: ']' :: rest => some rest
  | _ => none

/-- Reads one statement with the end of its line. -/
def statement (cs : List Char) : Step Statement :=
  match cs with
  | '[' :: '[' :: rest => header .addTable rest closeTwo
  | '[' :: rest => header .openTable rest closeOne
  | cs =>
    match assignment (value nestingLimit) cs with
    | .error e => .error e
    | .ok ((path, name, item), rest) =>
      (lineEnd? rest).map fun rest => (.assign path name item, rest)

/-- Reads statements to the end of the text, with empty lines and comments between them. The
statements before are last first. -/
def statements (before : List Statement) : Nat → List Char → Except Fault (List Statement)
  | 0, _ => .error .forbiddenCharacter
  | fuel + 1, cs =>
    match skipLines (cs.length + 1) cs with
    | [] => .ok before.reverse
    | cs =>
      match statement cs with
      | .error e => .error e
      | .ok (s, rest) => statements (s :: before) fuel rest

/-- The text without a byte order mark at its start. -/
def dropMark : List Char → List Char
  | '\uFEFF' :: rest => rest
  | cs => cs

/-- Reads the statements of a text. -/
def statements? (text : String) : Except Fault (List Statement) :=
  let cs := dropMark text.toList
  statements [] (cs.length + 1) cs

end LintRoster.Toml
