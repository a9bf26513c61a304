/-!
# TOML items

An item is what a name of a TOML document stands for. A table remembers how it came to be, because
that decides whether it may still be opened by a header or extended by a dotted key.
`Item.enter` walks along a path of names through tables and makes the missing ones.
-/

namespace LintRoster.Toml

/-- Why a text is not TOML, or a document does not fit its fields. -/
inductive Fault where
  | forbiddenCharacter
  | malformedKey
  | malformedString
  | malformedEscape
  | malformedNumber
  | malformedValue
  | malformedHeader
  | textAfterStatement
  | unfinishedCollection
  | tooDeep
  | numberOutOfRange
  | redefinition (name : String)
  | unexpectedValue (name : String)
deriving DecidableEq, Repr

namespace Fault

/-- The text of a fault. -/
def message : Fault → String
  | forbiddenCharacter => "the text holds a character that is not allowed in its place"
  | malformedKey => "a key is malformed"
  | malformedString => "a string is malformed"
  | malformedEscape => "an escape sequence is malformed"
  | malformedNumber => "a number is malformed"
  | malformedValue => "a value is malformed"
  | malformedHeader => "the header of a table is malformed"
  | textAfterStatement => "there is text after the end of a statement"
  | unfinishedCollection => "an array or inline table does not end"
  | tooDeep => "values or keys are nested too deeply"
  | numberOutOfRange => "a number is out of range"
  | redefinition name => "the key " ++ name ++ " is defined twice"
  | unexpectedValue name => "the value of " ++ name ++ " has an unexpected type"

end Fault

/-- How a table came to be: written between braces, opened by a header, passed through by the path
of a header, or passed through by a dotted key. -/
inductive Origin where
  | inline
  | header
  | passed
  | dotted
deriving DecidableEq, Repr

/-- What a name stands for. A moment is a date, a time or both, kept as its text. An array is open
if it grows by headers. -/
inductive Item where
  | string (s : String)
  | integer (n : Int)
  | float
  | boolean (b : Bool)
  | moment (text : String)
  | array (isOpen : Bool) (items : List Item)
  | table (origin : Origin) (entries : List (String × Item))
deriving Inhabited

/-- The entries of a table, in the order in which they were written. -/
abbrev Entries := List (String × Item)

namespace Entries

/-- The item under a name. -/
def get? (es : Entries) (name : String) : Option Item :=
  (es.find? fun entry => entry.1 == name).map Prod.snd

/-- The entries with another item under a name that is there. -/
def replace (es : Entries) (name : String) (item : Item) : Entries :=
  es.map fun entry => if entry.1 == name then (name, item) else entry

/-- The entries with one more at the end. -/
def add (es : Entries) (name : String) (item : Item) : Entries :=
  es ++ [(name, item)]

end Entries

namespace Item

/-- Whether a table may be entered by a dotted key, or else by the path of a header. -/
def mayEnter (byDots : Bool) : Origin → Bool
  | .inline => false
  | .header => !byDots
  | .passed | .dotted => true

/-- Walks along a path and changes the entries of the table at its end by `f`, which also learns how
that table came to be. Missing tables are made, and an open array is entered at its last table. -/
def enter (byDots : Bool) (f : Origin → Entries → Except Fault Entries) :
    List String → Origin → Entries → Except Fault Entries
  | [], origin, es => f origin es
  | name :: rest, _, es =>
    match es.get? name with
    | none =>
      let origin := if byDots then Origin.dotted else .passed
      (enter byDots f rest origin []).map fun sub => es.add name (.table origin sub)
    | some (.table origin sub) =>
      if mayEnter byDots origin then
        (enter byDots f rest origin sub).map fun sub => es.replace name (.table origin sub)
      else .error (.redefinition name)
    | some (.array true items) =>
      match items.getLast? with
      | some (.table origin sub) =>
        (enter byDots f rest origin sub).map fun sub =>
          es.replace name (.array true (items.dropLast ++ [.table origin sub]))
      | _ => .error (.redefinition name)
    | some _ => .error (.redefinition name)

/-- Adds an entry under a dotted key to the entries of a table. The tables before the last name must
have been made by dotted keys. -/
def assign (path : List String) (name : String) (item : Item) (es : Entries) :
    Except Fault Entries :=
  enter true
    (fun origin es =>
      if !path.isEmpty && origin != .dotted then .error (.redefinition name)
      else if (es.get? name).isSome then .error (.redefinition name)
      else .ok (es.add name item))
    path .header es

/-- The entries of assignments, one after the other. -/
def assignAll (es : Entries) : List (List String × String × Item) → Except Fault Entries
  | [] => .ok es
  | (path, name, item) :: rest =>
    match assign path name item es with
    | .error e => .error e
    | .ok es => assignAll es rest

end Item

end LintRoster.Toml
