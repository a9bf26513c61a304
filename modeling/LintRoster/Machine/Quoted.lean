import LintRoster.Text.Bytes

/-!
# Texts in messages

Tools quote the names that they complain about: between curved quotes, with escapes, or as a shell
would read them. Texts are byte texts.
-/

namespace LintRoster.Machine.Quoted

/-- The letter of the escape for a control character. -/
def letter? (c : Char) : Option Char :=
  ([('\x07', 'a'), ('\x08', 'b'), ('\t', 't'), ('\n', 'n'), ('\x0b', 'v'), ('\x0c', 'f'),
    ('\r', 'r')] : List (Char × Char)).lookup c

/-- The escape for a character that is not shown. -/
def escape (c : Char) : String :=
  match letter? c with
  | some d => "\\" ++ String.singleton d
  | none =>
    let ds := Nat.toDigits 8 c.toNat
    "\\" ++ String.ofList (List.replicate (3 - ds.length) '0' ++ ds)

/-- Whether a text is one of characters. -/
def isText (s : String) : Bool :=
  (Utf8.decode? (Bytes.toBytes s)).isSome

/-- Whether a character is shown, in a text that may be one of characters. -/
def isShown (isText : Bool) (c : Char) : Bool :=
  if c.toNat < 0x80 then 0x20 ≤ c.toNat && c != '\x7f' else isText

/-- A text between curved quotes. -/
def curved (s : String) : String :=
  let shows := isShown (isText s)
  let one (c : Char) : String :=
    if c == '\\' then "\\\\" else if shows c then String.singleton c else escape c
  Bytes.ofText "‘" ++ String.join (s.toList.map one) ++ Bytes.ofText "’"

/-- Characters of names that are the same between double quotes. -/
def isTame (c : Char) : Bool :=
  c.isAlphanum || ['%', '+', ',', '-', '.', '/', ':', '=', '@', ']', '_', ' ', '\''].contains c

/-- The characters of a text between single quotes, where `escaping` tells whether the quotes with
escapes in them are open. -/
def inSingle (shows : Char → Bool) : Bool → List Char → List String
  | _, [] => []
  | escaping, c :: cs =>
    if c == '\'' then "'\\''" :: inSingle shows false cs
    else if shows c then
      (if escaping then "''" else "") :: String.singleton c :: inSingle shows false cs
    else (if escaping then "" else "'$'") :: escape c :: inSingle shows true cs

/-- A text in the quotes that a shell reads. -/
def shell (s : String) : String :=
  let cs := s.toList
  if cs.contains '\'' && cs.all isTame then "\"" ++ s ++ "\""
  else "'" ++ String.join (inSingle (isShown (isText s)) false cs) ++ "'"

/-- Characters that mean something to a shell wherever they stand. -/
def special : List Char :=
  [' ', '!', '"', '$', '&', '(', ')', '*', ';', '<', '=', '>', '[', '^', '\x60', '|', '\'', '\\', '?']

/-- Whether a name has to be quoted to stand in front of a colon. -/
def isWild (s : String) : Bool :=
  let cs := s.toList
  let shows := isShown (isText s)
  cs.isEmpty || ['#', '~'].any (cs.head? == some ·) || cs == ['\x7b'] || cs == ['\x7d'] ||
    cs.any fun c => special.contains c || c == ':' || !shows c

/-- A name in front of a colon. -/
def name (s : String) : String :=
  if isWild s then shell s else s

end LintRoster.Machine.Quoted
