import LintRoster.Toml.Line

/-!
# Dates and times

A moment is a date, a time of day, or both with or without the distance from universal time. Its
text is in one form however it was written: a `T` between date and time, `Z` for universal time, and
at most nine decimal places of a second without trailing zeros.
-/

namespace LintRoster.Toml.Moment

/-- The value of exactly the given count of digits at the front. -/
def number? (count : Nat) (cs : List Char) : Option (Nat × List Char) :=
  let digits := cs.take count
  if digits.length == count && digits.all Char.isDigit then
    some (digits.foldl (fun n c => n * 10 + (c.toNat - 0x30)) 0, cs.drop count)
  else none

/-- A number of exactly the given count of digits, within bounds. -/
def numberIn? (count low high : Nat) (cs : List Char) : Option (Nat × List Char) :=
  (number? count cs).filter fun (n, _) => low ≤ n && n ≤ high

/-- The characters after a certain one. -/
def mark? (c : Char) : List Char → Option (List Char)
  | d :: rest => if d == c then some rest else none
  | [] => none

/-- Whether a year has a 29th of February. -/
def isLeap (year : Nat) : Bool :=
  year % 4 == 0 && (year % 100 != 0 || year % 400 == 0)

/-- The last day of a month. -/
def lastDay (year month : Nat) : Nat :=
  if month == 2 then (if isLeap year then 29 else 28)
  else if [4, 6, 9, 11].contains month then 30
  else 31

/-- A number with leading zeros. -/
def padded (width n : Nat) : String :=
  let digits := (toString n).toList
  String.ofList (List.replicate (width - digits.length) '0' ++ digits)

/-- Reads a date. -/
def date? (cs : List Char) : Option (String × List Char) := do
  let (year, cs) ← number? 4 cs
  let cs ← mark? '-' cs
  let (month, cs) ← numberIn? 2 1 12 cs
  let cs ← mark? '-' cs
  let (day, cs) ← numberIn? 2 1 (lastDay year month) cs
  return (padded 4 year ++ "-" ++ padded 2 month ++ "-" ++ padded 2 day, cs)

/-- Reads the decimal places of a second, of which nine count. -/
def places (cs : List Char) : String × List Char :=
  match cs with
  | '.' :: rest =>
    let digits := rest.takeWhile Char.isDigit
    if digits.isEmpty then ("", cs)
    else
      let kept := ((digits.take 9).reverse.dropWhile (· == '0')).reverse
      (if kept.isEmpty then "" else "." ++ String.ofList kept, rest.drop digits.length)
  | _ => ("", cs)

/-- Reads a time of day. -/
def time? (cs : List Char) : Option (String × List Char) := do
  let (hour, cs) ← numberIn? 2 0 23 cs
  let cs ← mark? ':' cs
  let (minute, cs) ← numberIn? 2 0 59 cs
  let cs ← mark? ':' cs
  let (second, cs) ← numberIn? 2 0 60 cs
  let (fraction, cs) := places cs
  return (padded 2 hour ++ ":" ++ padded 2 minute ++ ":" ++ padded 2 second ++ fraction, cs)

/-- Reads a distance from universal time after its sign. A distance of nothing has a plus sign. -/
def offsetAfter? (sign : String) (cs : List Char) : Option (String × List Char) := do
  let (hour, cs) ← numberIn? 2 0 23 cs
  let cs ← mark? ':' cs
  let (minute, cs) ← numberIn? 2 0 59 cs
  let sign := if hour == 0 && minute == 0 then "+" else sign
  return (sign ++ padded 2 hour ++ ":" ++ padded 2 minute, cs)

/-- Reads a distance from universal time, if there is a proper one. -/
def offset (cs : List Char) : String × List Char :=
  match cs with
  | 'Z' :: rest | 'z' :: rest => ("Z", rest)
  | '+' :: rest => (offsetAfter? "+" rest).getD ("", cs)
  | '-' :: rest => (offsetAfter? "-" rest).getD ("", cs)
  | _ => ("", cs)

/-- Whether a character stands between a date and a time. -/
def isSeparator (c : Char) : Bool :=
  c == 'T' || c == 't' || c == ' '

/-- Reads a date with the time that may follow it. -/
def dateTime? (cs : List Char) : Option (String × List Char) := do
  let (date, cs) ← date? cs
  match cs with
  | c :: rest =>
    if isSeparator c then
      match time? rest with
      | some (time, cs) =>
        let (offset, cs) := offset cs
        return (date ++ "T" ++ time ++ offset, cs)
      | none => return (date, c :: rest)
    else return (date, c :: rest)
  | [] => return (date, [])

/-- Reads a moment. -/
def read? (cs : List Char) : Option (String × List Char) :=
  (dateTime? cs).or (time? cs)

end LintRoster.Toml.Moment
