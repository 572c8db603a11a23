/-
ReleaseKit.Utility.Times — points in time, as people write them.

A point in time is a number of seconds since the beginning of 1970. There is no
other time zone than the one in which that began.

  §1 Days      — the calendar.
  §2 Reading   — `Moment.read`.
  §3 Writing   — `Moment.format`, `date`.
-/
import ReleaseKit.Utility.Lines

namespace ReleaseKit.Utility.Moment

/-! ## §1 Days -/

/-- The number of a day, counted from the beginning of 1970, of a year from 1970 on. -/
def dayNumber (year month day : Nat) : Int :=
  let y : Int := if month ≤ 2 then (year : Int) - 1 else year
  let era := y / 400
  let yearOfEra := y - era * 400
  let m : Int := ((month + 9) % 12 : Nat)
  let dayOfYear := (153 * m + 2) / 5 + (day : Int) - 1
  let dayOfEra := yearOfEra * 365 + yearOfEra / 4 - yearOfEra / 100 + dayOfYear
  era * 146097 + dayOfEra - 719468

/-- The year, the month and the day of a day's number. -/
def ofDayNumber (n : Int) : Nat × Nat × Nat :=
  let z := n + 719468
  let era := z / 146097
  let dayOfEra := z - era * 146097
  let yearOfEra := (dayOfEra - dayOfEra / 1460 + dayOfEra / 36524 - dayOfEra / 146096) / 365
  let dayOfYear := dayOfEra - (365 * yearOfEra + yearOfEra / 4 - yearOfEra / 100)
  let m := (5 * dayOfYear + 2) / 153
  let day := dayOfYear - (153 * m + 2) / 5 + 1
  let month := if m < 10 then m + 3 else m - 9
  let year := yearOfEra + era * 400 + (if month ≤ 2 then 1 else 0)
  (year.toNat, month.toNat, day.toNat)

/-! ## §2 Reading -/

/-- A time of day, such as `12:30:05`, in seconds. -/
def readClock (text : String) : Option Int :=
  match text.splitOn ":" with
  | [h, m] =>
    match h.toNat?, m.toNat? with
    | some h, some m => if h < 24 && m < 60 then some (h * 3600 + m * 60 : Nat) else none
    | _, _ => none
  | [h, m, s] =>
    match h.toNat?, m.toNat?, ((s.splitOn ".").headD "").toNat? with
    | some h, some m, some s =>
      if h < 24 && m < 60 && s < 61 then some (h * 3600 + m * 60 + s : Nat) else none
    | _, _, _ => none
  | _ => none

/-- A date, such as `2020-01-31`, in seconds. -/
def readDate (text : String) : Option Int :=
  match (text.splitOn "-").map String.toNat? with
  | [some y, some m, some d] =>
    if 1 ≤ m && m ≤ 12 && 1 ≤ d && d ≤ 31 then some (dayNumber y m d * 86400) else none
  | _ => none

/-- How long a unit of time is. -/
def unitLength? (word : String) : Option Int :=
  let name := if word.endsWith "s" && word.length > 1 then (word.dropEnd 1).toString else word
  [("second", 1), ("sec", 1), ("minute", 60), ("min", 60), ("hour", 3600), ("day", 86400),
    ("week", 604800), ("fortnight", 1209600), ("month", 2592000), ("year", 31536000)].lookup name

/-- A moment in words: a date, a time of day, a distance from now. -/
def readWords (now : Int) : Option Int → List String → Option Int
  | found, [] => some (found.getD now)
  | found, word :: rest =>
    let here := found.getD now
    let number? : Option Int :=
      if word.startsWith "+" then ((word.drop 1).toString.toNat?).map Int.ofNat else word.toInt?
    match number? with
    | some n =>
      match rest with
      | [] => none
      | [unit] => (unitLength? unit).map fun k => here + n * k
      | unit :: next :: more =>
        (unitLength? unit).bind fun k =>
          if next = "ago" then readWords now (some (here - n * k)) more
          else readWords now (some (here + n * k)) (next :: more)
    | none =>
      match readDate word with
      | some date => readWords now (some date) rest
      | none =>
        match readClock word with
        | some clock => readWords now (some (here / 86400 * 86400 + clock)) rest
        | none =>
          match [("now", 0), ("today", 0), ("UTC", 0), ("yesterday", -86400),
              ("tomorrow", 86400)].lookup word with
          | some distance => readWords now (some (here + distance)) rest
          | none => none

/-- The moment that a text names, if it is `now` now. -/
def read (now : Int) (text : String) : Option Int :=
  match text.toList with
  | '@' :: digits => (String.ofList (digits.takeWhile (· != '.'))).toInt?
  | chars =>
    -- a letter between date and time, and one behind them
    let plain := chars.map fun c => if c == 'T' then ' ' else c
    let spaced := if chars.contains ':' then String.ofList plain else text
    let spaced := if spaced.endsWith "Z" then (spaced.dropEnd 1).toString else spaced
    readWords now none ((spaced.splitOn " ").filter (· != ""))

/-- A moment in digits only, as `touch` takes it. -/
def readStamp (now : Int) (text : String) : Option Int :=
  match text.splitOn "." with
  | digits :: seconds =>
    let n := digits.length
    let all := digits.toList
    let part (i : Nat) : Option Nat := (String.ofList ((all.drop (n - i)).take 2)).toNat?
    let year? : Option Nat :=
      if n = 12 then (String.ofList (all.take 4)).toNat?
      else if n = 10 then
        ((String.ofList (all.take 2)).toNat?).map fun y => if y < 69 then 2000 + y else 1900 + y
      else if n = 8 then some (ofDayNumber (now / 86400)).1
      else none
    match year?, part 8, part 6, part 4, part 2 with
    | some y, some m, some d, some h, some minute =>
      let s := ((seconds.headD "0").toNat?).getD 0
      if 1 ≤ m && m ≤ 12 && 1 ≤ d && d ≤ 31 && h < 24 && minute < 60 then
        some (dayNumber y m d * 86400 + (h * 3600 + minute * 60 + s : Nat))
      else none
    | _, _, _, _, _ => none
  | [] => none

/-! ## §3 Writing -/

def dayNames : List String :=
  ["Thursday", "Friday", "Saturday", "Sunday", "Monday", "Tuesday", "Wednesday"]

def monthNames : List String :=
  ["January", "February", "March", "April", "May", "June", "July", "August", "September",
    "October", "November", "December"]

/-- A number with zeros before it. -/
def zeroes (width n : Nat) : String :=
  String.ofList (List.replicate (width - (toString n).length) '0') ++ toString n

/-- What a letter behind a percent sign stands for. -/
def piece (t : Int) (c : Char) : Option String :=
  let day := t / 86400
  let second := (t - day * 86400).toNat
  let (year, month, dom) := ofDayNumber day
  let weekday := (day - day / 7 * 7).toNat
  let hour := second / 3600
  let minute := second / 60 % 60
  let name := (dayNames[weekday]?).getD ""
  let monthName := (monthNames[month - 1]?).getD ""
  let clock := zeroes 2 hour ++ ":" ++ zeroes 2 minute ++ ":" ++ zeroes 2 (second % 60)
  let twelve := if hour % 12 = 0 then 12 else hour % 12
  match c with
  | 'Y' => some (zeroes 4 year)
  | 'y' => some (zeroes 2 (year % 100))
  | 'C' => some (zeroes 2 (year / 100))
  | 'm' => some (zeroes 2 month)
  | 'd' => some (zeroes 2 dom)
  | 'e' => some (padLeft 2 (toString dom))
  | 'H' => some (zeroes 2 hour)
  | 'k' => some (padLeft 2 (toString hour))
  | 'I' => some (zeroes 2 twelve)
  | 'l' => some (padLeft 2 (toString twelve))
  | 'M' => some (zeroes 2 minute)
  | 'S' => some (zeroes 2 (second % 60))
  | 'N' => some "000000000"
  | 'p' => some (if hour < 12 then "AM" else "PM")
  | 'P' => some (if hour < 12 then "am" else "pm")
  | 's' => some (toString t)
  | 'F' => some (zeroes 4 year ++ "-" ++ zeroes 2 month ++ "-" ++ zeroes 2 dom)
  | 'D' => some (zeroes 2 month ++ "/" ++ zeroes 2 dom ++ "/" ++ zeroes 2 (year % 100))
  | 'x' => some (zeroes 2 month ++ "/" ++ zeroes 2 dom ++ "/" ++ zeroes 2 (year % 100))
  | 'T' => some clock
  | 'X' => some clock
  | 'R' => some (zeroes 2 hour ++ ":" ++ zeroes 2 minute)
  | 'a' => some (name.take 3).toString
  | 'A' => some name
  | 'b' => some (monthName.take 3).toString
  | 'h' => some (monthName.take 3).toString
  | 'B' => some monthName
  | 'j' => some (zeroes 3 ((day - dayNumber year 1 1).toNat + 1))
  | 'u' => some (toString ((weekday + 3) % 7 + 1))
  | 'w' => some (toString ((weekday + 4) % 7))
  | 'z' => some "+0000"
  | 'Z' => some "UTC"
  | 'n' => some "\n"
  | 't' => some "\t"
  | '%' => some "%"
  | 'c' => some ((name.take 3).toString ++ " " ++ (monthName.take 3).toString ++ " " ++
      padLeft 2 (toString dom) ++ " " ++ clock ++ " " ++ toString year)
  | _ => none

/-- A moment as a format says. -/
def format (t : Int) : List Char → String
  | '%' :: '-' :: c :: rest =>
    let text := (piece t c).getD ("%-" ++ String.singleton c)
    let bare := String.ofList (text.toList.dropWhile fun d => d == '0' || d == ' ')
    (if bare = "" then "0" else bare) ++ format t rest
  | '%' :: c :: rest => (piece t c).getD ("%" ++ String.singleton c) ++ format t rest
  | c :: rest => String.singleton c ++ format t rest
  | [] => ""

/-- The time of the disk in seconds. -/
def now : Task Int := do return (((← Task.disk).clock / 1000 : Nat) : Int)

end Moment

def date : Utility := fun call => call.withOptions "ud:r:I::R" [("utc", 'u'), ("universal", 'u'),
    ("date", 'd'), ("reference", 'r'), ("iso-8601", 'I'), ("rfc-email", 'R')] 1 fun o => do
  let now ← Moment.now
  let w ← get
  let moment? : Except String Int :=
    match o.value? 'd', o.value? 'r' with
    | some text, _ =>
      match Moment.read now text with
      | some t => .ok t
      | none => .error ("invalid date " ++ Quotes.always text)
    | none, some path =>
      match w.disk.entryAt? w.self.cwd path with
      | some e => .ok (w.disk.timeOf e / 1000 : Nat)
      | none => .error (path ++ ": No such file or directory")
    | none, none => .ok now
  match moment? with
  | .error e => call.fail e
  | .ok t =>
    let standard := if o.has 'I' then "%F" else if o.has 'R' then "%a, %d %b %Y %T %z"
      else "%a %b %e %T %Z %Y"
    match o.operands with
    | [] => emit call (Moment.format t standard.toList ++ "\n")
    | [text] =>
      match text.toList with
      | '+' :: chars => emit call (Moment.format t chars ++ "\n")
      | _ => call.fail ("invalid date " ++ Quotes.always text)
    | _ :: extra :: _ => call.usage ("extra operand " ++ Quotes.always extra)

end ReleaseKit.Utility
