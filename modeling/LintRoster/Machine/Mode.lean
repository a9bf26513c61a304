import LintRoster.Text.Digit

/-!
# Permissions

The permissions of a file are nine bits: to read, write and execute, for its owner, its group and
others. Changes to them are written in octal digits, or as clauses such as `u+x`.
-/

namespace LintRoster.Machine.Mode

/-- The bits that a letter for a class of users stands for, with all others of its kind. -/
def classBits : Char → Option Nat
  | 'u' => some 0o700
  | 'g' => some 0o070
  | 'o' => some 0o007
  | 'a' => some 0o777
  | _ => none

/-- The bits that a letter for a permission stands for, for all classes. Those that files of a machine
do not have stand for none. -/
def permissionBits (isSearchable : Bool) : Char → Option Nat
  | 'r' => some 0o444
  | 'w' => some 0o222
  | 'x' => some 0o111
  | 'X' => some (if isSearchable then 0o111 else 0)
  | 's' | 't' => some 0
  | _ => none

/-- The permissions of one class, for all classes. -/
def spread (mode : Nat) : Char → Option Nat
  | 'u' => some (mode / 64 % 8 * 0o111)
  | 'g' => some (mode / 8 % 8 * 0o111)
  | 'o' => some (mode % 8 * 0o111)
  | _ => none

/-- The bits of the letters at the front of a clause, and what follows them. -/
def letters (bitsOf : Char → Option Nat) : Nat → List Char → Nat × List Char
  | bits, [] => (bits, [])
  | bits, c :: cs =>
    match bitsOf c with
    | some more => letters bitsOf (bits ||| more) cs
    | none => (bits, c :: cs)

/-- The bits of one number that another one does not have. -/
def without (a b : Nat) : Nat :=
  a - (a &&& b)

/-- Permissions after a change. -/
def change (operator : Char) (classes bits mode : Nat) : Nat :=
  let bits := bits &&& classes
  if operator == '+' then mode ||| bits
  else if operator == '-' then without mode bits
  else without mode classes ||| bits

/-- Permissions after the changes of a clause behind its classes. `old` is what they were before all
clauses. -/
def changes (isSearchable : Bool) (old classes : Nat) : Nat → Nat → List Char → Option Nat
  | 0, _, _ => none
  | _, mode, [] => some mode
  | fuel + 1, mode, operator :: cs =>
    if ['+', '-', '='].contains operator then
      let (bits, rest) :=
        match cs with
        | c :: rest =>
          match spread old c with
          | some bits => (bits, rest)
          | none => letters (permissionBits isSearchable) 0 cs
        | [] => (0, [])
      changes isSearchable old classes fuel (change operator classes bits mode) rest
    else none

/-- Permissions after a clause. -/
def clause (isSearchable : Bool) (unnamed old mode : Nat) (cs : List Char) : Option Nat :=
  let (classes, rest) := letters classBits 0 cs
  if rest.isEmpty then if cs.isEmpty then some mode else none
  else
    changes isSearchable old (if classes == 0 then unnamed else classes) (rest.length + 1) mode rest

/-- Permissions after clauses. Where no class is named, the change is for the classes of `unnamed`. -/
def afterClauses (isSearchable : Bool) (unnamed mode : Nat) (text : String) : Option Nat :=
  (text.splitOn ",").foldl (fun m c => m.bind fun m => clause isSearchable unnamed mode m c.toList)
    (some mode)

/-- The permissions that a text asks for, from the present ones. -/
def parse? (isSearchable : Bool) (unnamed mode : Nat) (text : String) : Option Nat :=
  if text.toList.head?.any Char.isDigit then Text.natural? 8 text.toList
  else afterClauses isSearchable unnamed mode text

/-- Octal digits, of which there are at least `count`. -/
def octal (count n : Nat) : String :=
  let ds := Nat.toDigits 8 n
  String.ofList (List.replicate (count - ds.length) '0' ++ ds)

/-- The letters of three bits. -/
def classText (bits : Nat) : String :=
  let letter (bit : Nat) (s : String) : String := if bits / bit % 2 == 1 then s else ""
  letter 4 "r" ++ letter 2 "w" ++ letter 1 "x"

/-- Permissions as clauses. -/
def clausesText (mode : Nat) : String :=
  "u=" ++ classText (mode / 64 % 8) ++ ",g=" ++ classText (mode / 8 % 8) ++ ",o=" ++
    classText (mode % 8)

end LintRoster.Machine.Mode
