import LintRoster.Machine.Tool.Spawn

/-!
# Facts about the machine

Tools that tell where programs are, what the input and the machine are like, and what the time is. The
days of the calendar are counted from the first of January 1970.
-/

namespace LintRoster.Machine.Tool

/-! ## Programs and streams -/

/-- Tells where programs are. -/
def which : Tool := fun _ call =>
  withOptions call { letters := "as", inFront := true } 2 fun given => do
    let find (name : String) : Work Nat := do
      let paths := Exec.paths (searchPathOf call.environment) name
      let found ← Work.look fun fs => paths.filter fun path => fs.isExecutable (pathOf path)
      let shown := if given.has 'a' then found else found.take 1
      say call (String.join (shown.map (· ++ "\n"))) (if found.isEmpty then 1 else 0)
    if given.operands.isEmpty then return 1 else forEach find given.operands

/-- Tells that the input is no terminal. -/
def tty : Tool := fun _ call =>
  withOptions call { letters := "s", names := [("silent", .nothing, 's'), ("quiet", .nothing, 's')] } 2
    fun given => if given.has 's' then return 1 else say call "not a tty\n" 1

/-- Tells the kind of the machine. -/
def arch : Tool := fun _ call => say call "x86_64\n" 0

/-! ## Time -/

namespace Calendar

/-- A point in time in the calendar. -/
structure Moment where
  year : Int
  month : Nat
  day : Nat
  hour : Nat
  minute : Nat
  second : Nat
  /-- How many days it is after the first one that is counted. -/
  days : Int

/-- The day of a date, counted from the first one. Years begin in March here, so that a leap day is the
last day of its year. -/
def daysOf (year : Int) (month day : Nat) : Int :=
  let y := if month ≤ 2 then year - 1 else year
  let m := (month + 9) % 12
  365 * y + y.fdiv 4 - y.fdiv 100 + y.fdiv 400 + ((153 * m + 2) / 5 : Nat) + day - 719469

/-- The date of a day. -/
def dateOf (days : Int) : Int × Nat × Nat :=
  let z := days + 719468
  let era := z.fdiv 146097
  let inEra := (z - era * 146097).toNat
  let yearInEra := (inEra - inEra / 1460 + inEra / 36524 - inEra / 146096) / 365
  let dayOfYear := inEra - (365 * yearInEra + yearInEra / 4 - yearInEra / 100)
  let m := (5 * dayOfYear + 2) / 153
  let month := (m + 2) % 12 + 1
  let year := era * 400 + yearInEra + (if month ≤ 2 then 1 else 0)
  (year, month, dayOfYear - (153 * m + 2) / 5 + 1)

/-- The moment at a number of seconds. -/
def momentOf (seconds : Int) : Moment :=
  let days := seconds.fdiv 86400
  let rest := (seconds - days * 86400).toNat
  let (year, month, day) := dateOf days
  ⟨year, month, day, rest / 3600, rest / 60 % 60, rest % 60, days⟩

/-- The seconds at a moment. -/
def Moment.seconds (t : Moment) : Int :=
  t.days * 86400 + (t.hour * 3600 + t.minute * 60 + t.second : Nat)

/-- The names of the days of the week, from Sunday on. -/
def dayNames : List String :=
  ["Sunday", "Monday", "Tuesday", "Wednesday", "Thursday", "Friday", "Saturday"]

/-- The names of the months. -/
def monthNames : List String :=
  ["January", "February", "March", "April", "May", "June", "July", "August", "September", "October",
    "November", "December"]

/-- The day of the week, where Sunday is zero. -/
def Moment.weekday (t : Moment) : Nat :=
  ((t.days + 4).fmod 7).toNat

/-- How many days of the year are before a moment. -/
def Moment.dayOfYear (t : Moment) : Nat :=
  (t.days - daysOf t.year 1 1).toNat

/-- How a number is filled up: with what, and to what width. -/
structure Filling where
  sign : Char
  width : Nat

/-- A number as it is filled up. -/
def Filling.text (f : Filling) (n : Int) : String :=
  let ds := Nat.toDigits 10 n.natAbs
  let fill := if f.sign == '-' then [] else List.replicate (f.width - ds.length) f.sign
  (if n < 0 then "-" else "") ++ String.ofList (fill ++ ds)

/-- What a letter stands for that combines others. -/
def combined : List (Char × String) :=
  [('F', "%Y-%m-%d"), ('T', "%H:%M:%S"), ('D', "%m/%d/%y"), ('R', "%H:%M"), ('x', "%m/%d/%y"),
    ('X', "%H:%M:%S"), ('c', "%a %b %e %H:%M:%S %Y"), ('r', "%I:%M:%S %p")]

/-- What a letter stands for. Numbers are filled up with a sign, unless they have their own. -/
def field? (t : Moment) (sign? : Option Char) (c : Char) : Option String :=
  let filled (sign : Char) (width : Nat) (n : Int) : Option String :=
    some ((Filling.mk (sign?.getD sign) width).text n)
  let short (s : String) : String := String.ofList (s.toList.take 3)
  let hour := if t.hour % 12 == 0 then 12 else t.hour % 12
  let monday := (t.weekday + 6) % 7
  match c with
  | 'Y' => filled '-' 4 t.year
  | 'C' => filled '0' 2 (t.year.fdiv 100)
  | 'y' => filled '0' 2 (t.year.fmod 100)
  | 'm' => filled '0' 2 t.month
  | 'd' => filled '0' 2 t.day
  | 'e' => filled ' ' 2 t.day
  | 'H' => filled '0' 2 t.hour
  | 'k' => filled ' ' 2 t.hour
  | 'I' => filled '0' 2 hour
  | 'l' => filled ' ' 2 hour
  | 'M' => filled '0' 2 t.minute
  | 'S' => filled '0' 2 t.second
  | 'N' => filled '0' 9 0
  | 's' => filled '-' 1 t.seconds
  | 'j' => filled '0' 3 (t.dayOfYear + 1)
  | 'q' => filled '-' 1 ((t.month + 2) / 3 : Nat)
  | 'u' => filled '-' 1 (monday + 1)
  | 'w' => filled '-' 1 t.weekday
  | 'U' => filled '0' 2 ((t.dayOfYear + 7 - t.weekday) / 7 : Nat)
  | 'W' => filled '0' 2 ((t.dayOfYear + 7 - monday) / 7 : Nat)
  | 'a' => some (short (dayNames.getD t.weekday ""))
  | 'A' => some (dayNames.getD t.weekday "")
  | 'b' | 'h' => some (short (monthNames.getD (t.month - 1) ""))
  | 'B' => some (monthNames.getD (t.month - 1) "")
  | 'p' => some (if t.hour < 12 then "AM" else "PM")
  | 'P' => some (if t.hour < 12 then "am" else "pm")
  | 'Z' => some "UTC"
  | 'z' => some "+0000"
  | 'n' => some "\n"
  | 't' => some "\t"
  | '%' => some "%"
  | _ => none

/-- A moment in a format. -/
def format (t : Moment) : Nat → List Char → String
  | 0, _ => ""
  | _, [] => ""
  | fuel + 1, '%' :: rest =>
    let signs : List (Char × Char) := [('-', '-'), ('_', ' '), ('0', '0')]
    let sign? := rest.head?.bind fun c => signs.lookup c
    let isUpper := rest.head? == some '^'
    let after := if sign?.isSome || isUpper then rest.drop 1 else rest
    match after with
    | [] => "%"
    | c :: after =>
      match combined.lookup c, field? t sign? c with
      | some text, _ => format t fuel text.toList ++ format t fuel after
      | none, some text => (if isUpper then text.toUpper else text) ++ format t fuel after
      | none, none => "%" ++ String.singleton c ++ format t fuel after
  | fuel + 1, c :: rest => String.singleton c ++ format t fuel rest

/-- The numbers in a text between signs. -/
def numbers (isSign : Char → Bool) (cs : List Char) : Option (List Nat) :=
  let parts := cs.foldr (fun c (done : List (List Char)) =>
    if isSign c then [] :: done
    else
      match done with
      | part :: rest => (c :: part) :: rest
      | [] => [[c]]) [[]]
  parts.mapM fun ds => if ds.all Char.isDigit then Text.natural? 10 ds else none

/-- The seconds that a text stands for. -/
def secondsOf? (now : Int) (text : String) : Option Int :=
  match text.toList with
  | '@' :: '-' :: cs => (Text.natural? 10 cs).map fun n => -(n : Int)
  | '@' :: cs => (Text.natural? 10 (cs.takeWhile (· != '.'))).map Int.ofNat
  | cs =>
    let today := now - now.fmod 86400
    if text == "now" || text == "" then some now
    else if text == "today" then some today
    else
      let isSplit (c : Char) : Bool := c == ' ' || c == 'T'
      let day := cs.takeWhile fun c => !isSplit c
      let time := ((cs.dropWhile fun c => !isSplit c).drop 1).filter (· != 'Z')
      let date? :=
        if day.length == 8 && day.all Char.isDigit then
          numbers (· == '-') (day.take 4 ++ '-' :: (day.drop 4).take 2 ++ '-' :: day.drop 6)
        else numbers (· == '-') day
      match date?, if time.isEmpty then some [0, 0, 0] else numbers (· == ':') time with
      | some [y, m, d], some (hour :: minute :: more) =>
        if m < 1 || 12 < m || d < 1 || 31 < d || 23 < hour || 59 < minute then none
        else some (daysOf y m d * 86400 + (hour * 3600 + minute * 60 + more.headD 0 : Nat))
      | _, _ => none

/-- The moment at which the machine stands still. -/
def now : Int :=
  1700000000

end Calendar

/-- Writes a point in time. -/
def date : Tool := fun _ call =>
  withOptions call {
      letters := "d:I::Ru"
      names :=
        [("date", .required, 'd'), ("iso-8601", .optional, 'I'), ("rfc-email", .nothing, 'R'),
          ("utc", .nothing, 'u'), ("universal", .nothing, 'u')] } 1
    fun given => do
      let invalid (text : String) : Work Nat := do
        complain call ("invalid date " ++ Quoted.curved text)
        return 1
      let preset :=
        match given.last? ['I', 'R'] with
        | some 'R' => "%a, %d %b %Y %H:%M:%S +0000"
        | some _ =>
          match given.value? 'I' with
          | some "seconds" => "%FT%T+00:00"
          | some "minutes" => "%FT%R+00:00"
          | some "hours" => "%FT%H+00:00"
          | _ => "%F"
        | none => "%a %b %e %H:%M:%S UTC %Y"
      let text := (given.value? 'd').getD "now"
      match given.operands, Calendar.secondsOf? Calendar.now text with
      | _ :: extra :: _, _ => misused call 1 ("extra operand " ++ Quoted.curved extra)
      | _, none => invalid text
      | operands, some seconds =>
        let shape (format : String) : Work Nat :=
          let cs := format.toList
          say call (Calendar.format (Calendar.momentOf seconds) (cs.length + 100) cs ++ "\n") 0
        match operands.map String.toList with
        | ('+' :: format) :: _ => shape (String.ofList format)
        | word :: _ => invalid (String.ofList word)
        | [] => shape preset

end LintRoster.Machine.Tool
