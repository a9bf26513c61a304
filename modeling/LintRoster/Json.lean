/-!
# JSON trees

A tree keeps what a text says: the members of an object in their order and with repetitions, numbers
as they are written, and a string without a text where its escapes spell no characters.
-/

namespace LintRoster

/-- What a JSON text says. -/
inductive Json where
  | null
  | bool (b : Bool)
  | number (literal : String)
  | string (text : Option String)
  | array (items : List Json)
  | object (members : List (Option String × Json))
deriving Inhabited

namespace Json

/-- Why a text or a tree is not what was expected. -/
inductive Fault where
  | malformed
  | textAfterValue
  | nameWithoutText
  | missingMember (name : String)
  | repeatedMember (name : String)
  | unexpectedShape
deriving DecidableEq, Repr

namespace Fault

/-- The text of a fault. -/
def message : Fault → String
  | malformed => "the text is not JSON"
  | textAfterValue => "there is text after the value"
  | nameWithoutText => "the name of a member is not a text"
  | missingMember name => "missing member " ++ name
  | repeatedMember name => "repeated member " ++ name
  | unexpectedShape => "a value has an unexpected shape"

end Fault

/-- The value of the one member that matters. Other members are allowed as long as their names are
texts, and an array with one item stands for an object with just this member. -/
def soleMember (name : String) : Json → Except Fault Json
  | .object members =>
    if members.any fun member => member.1.isNone then .error .nameWithoutText
    else
      match members.filter fun member => member.1 == some name with
      | [] => .error (.missingMember name)
      | [member] => .ok member.2
      | _ => .error (.repeatedMember name)
  | .array [value] => .ok value
  | _ => .error .unexpectedShape

/-- The items of an array. -/
def items : Json → Except Fault (List Json)
  | .array items => .ok items
  | _ => .error .unexpectedShape

/-- The text of a string. -/
def text : Json → Except Fault String
  | .string (some text) => .ok text
  | _ => .error .unexpectedShape

end Json

end LintRoster
