import RunLedger.Text.Decimal

/-!
# Dates

Seconds since the epoch as dates of the calendar, and back, as programs read and write them. All times are of the zone
that has no offset.

* `ofDays_zero`: the epoch began on the first day of 1970.
-/

namespace RunLedger.Sandbox

/-- A day of the calendar. -/
structure Day where
  year : Int
  month : Nat
  day : Nat
  deriving DecidableEq, Repr

namespace Date

/-- The day that is so many days behind the epoch's first one. -/
def ofDays (days : Int) : Day :=
  let z := days + 719468
  let era := z.fdiv 146097
  let inEra := (z - era * 146097).toNat
  let yearOfEra := (inEra - inEra / 1460 + inEra / 36524 - inEra / 146096) / 365
  let dayOfYear := inEra - (365 * yearOfEra + yearOfEra / 4 - yearOfEra / 100)
  let shifted := (5 * dayOfYear + 2) / 153
  let month := if shifted < 10 then shifted + 3 else shifted - 9
  ⟨Int.ofNat yearOfEra + era * 400 + (if month ≤ 2 then 1 else 0), month, dayOfYear - (153 * shifted + 2) / 5 + 1⟩

/-- How many days a day is behind the epoch's first one. -/
def days (d : Day) : Int :=
  let year := if d.month ≤ 2 then d.year - 1 else d.year
  let era := year.fdiv 400
  let yearOfEra := (year - era * 400).toNat
  let shifted := if d.month > 2 then d.month - 3 else d.month + 9
  let dayOfYear := (153 * shifted + 2) / 5 + d.day - 1
  era * 146097 + Int.ofNat (yearOfEra * 365 + yearOfEra / 4 - yearOfEra / 100 + dayOfYear) - 719468

/-- How many days a month has. -/
def monthLength (year : Int) (month : Nat) : Nat :=
  let next := if month = 12 then ⟨year + 1, 1, 1⟩ else (⟨year, month + 1, 1⟩ : Day)
  (days next - days ⟨year, month, 1⟩).toNat

/-- The seconds of a day and a time. -/
def seconds (d : Day) (hour minute second : Nat) : Int :=
  days d * 86400 + Int.ofNat (hour * 3600 + minute * 60 + second)

/-! ## Reading -/

/-- The number that a text of digits writes. -/
def number? (s : String) : Option Nat :=
  if !s.isEmpty && s.toList.all Char.isDigit then some (Text.Decimal.value s.toList) else none

/-- The day that a text writes. -/
def day? (s : String) : Option Day :=
  match (s.splitOn "-").mapM number? with
  | some [y, m, d] => if 1 ≤ m && m ≤ 12 && 1 ≤ d && d ≤ monthLength y m then some ⟨y, m, d⟩ else none
  | _ => none

/-- The seconds of the time of a day that a text writes, and the nanoseconds behind them. -/
def time? (s : String) : Option (Nat × Nat) := do
  let (s, offset) := if s.endsWith "Z" then ((s.dropEnd 1).toString, 0) else (s, 0)
  let (whole, fraction) := match s.splitOn "." with
    | [whole, fraction] => (whole, fraction)
    | _ => (s, "")
  let nanos ← if fraction.isEmpty then some 0
    else (number? fraction).map fun n => n * Nat.pow 10 9 / Nat.pow 10 fraction.length
  match (whole.splitOn ":").mapM number? with
  | some [h, m] => if h < 24 && m < 60 then some (h * 3600 + m * 60 + offset, 0) else none
  | some [h, m, s] => if h < 24 && m < 60 && s < 61 then some (h * 3600 + m * 60 + s, nanos) else none
  | _ => none

/-- The seconds of a unit of time. -/
def unit? (s : String) : Option Int :=
  let s := if s.endsWith "s" then (s.dropEnd 1).toString else s
  [("sec", 1), ("second", 1), ("min", 60), ("minute", 60), ("hour", 3600), ("day", 86400), ("week", 604800),
    ("fortnight", 1209600)].lookup s

/-- The number that a text writes, with a sign if need be. -/
def signed? (s : String) : Option Int :=
  if s.startsWith "-" then (number? (s.drop 1).toString).map fun n => -Int.ofNat n
  else if s.startsWith "+" then (number? (s.drop 1).toString).map Int.ofNat
  else (number? s).map Int.ofNat

/-- The nanoseconds after words of a date were taken one after the other, as many as there is fuel for. -/
def words? : Nat → Int → List String → Option Int
  | 0, _, _ => none
  | _, t, [] => some t
  | n + 1, t, word :: rest =>
    let second := 1000000000
    let dayStart := fun (t : Int) => t.fdiv (86400 * second) * (86400 * second)
    let moved := fun (count unit : Int) (rest : List String) =>
      match rest with
      | "ago" :: rest => words? n (t - count * unit * second) rest
      | rest => words? n (t + count * unit * second) rest
    match word with
    | "now" | "today" => words? n t rest
    | "UTC" | "Z" | "GMT" => words? n t rest
    | "yesterday" => words? n (t - 86400 * second) rest
    | "tomorrow" => words? n (t + 86400 * second) rest
    | "midnight" => words? n (dayStart t) rest
    | "next" =>
      match rest with
      | unit :: rest => (unit? unit).bind fun u => words? n (t + u * second) rest
      | [] => none
    | "last" =>
      match rest with
      | unit :: rest => (unit? unit).bind fun u => words? n (t - u * second) rest
      | [] => none
    | word =>
      match time? word with
      | some (s, nanos) => words? n (dayStart t + Int.ofNat s * second + Int.ofNat nanos) rest
      | none =>
        match signed? word, rest with
        | some count, unit :: rest => (unit? unit).bind fun u => moved count u rest
        | _, _ => (unit? word).bind fun u => moved 1 u rest

/-- The nanoseconds of the moment that a text tells, given the present one. -/
def read? (now : Int) (s : String) : Option Int :=
  let s := s.trimAscii.toString
  let second := 1000000000
  if s.startsWith "@" then
    match ((s.drop 1).toString).splitOn "." with
    | [whole] => (signed? whole).map (· * second)
    | [whole, fraction] => do
      let n ← signed? whole
      let f ← number? fraction
      return n * second + Int.ofNat (f * Nat.pow 10 9 / Nat.pow 10 fraction.length)
    | _ => none
  else
    let words := (s.splitOn " ").filter (· ≠ "")
    let front := words.headD ""
    let (day, more) := match front.splitOn "T" with
      | [day, time] => (day, if time = "" then [] else [time])
      | _ => (front, [])
    match day? day with
    | some d => words? (s.length + 2) (seconds d 0 0 0 * second) (more ++ words.drop 1)
    | none =>
      match number? front with
      | some n =>
        if front.length = 8 then
          let d : Day := ⟨Int.ofNat (n / 10000), n / 100 % 100, n % 100⟩
          if 1 ≤ d.month && d.month ≤ 12 && 1 ≤ d.day && d.day ≤ monthLength d.year d.month then
            words? (s.length + 2) (seconds d 0 0 0 * second) (words.drop 1)
          else none
        else words? (s.length + 2) now words
      | none => if words.isEmpty then words? 2 now ["midnight"] else words? (s.length + 2) now words

/-- The nanoseconds of a moment that digits write: month, day, hour and minute, with the year in front or without, and
seconds behind a point. -/
def stamp? (now : Int) (s : String) : Option Int := do
  let (front, second) ← match s.splitOn "." with
    | [front] => some (front, 0)
    | [front, second] => if second.length = 2 then (number? second).map fun n => (front, n) else none
    | _ => none
  let n ← number? front
  let year := (ofDays (now.fdiv 86400000000000)).year
  let (year, rest) ← match front.length with
    | 8 => some (year, n)
    | 10 =>
      let y := n / 100000000
      some (Int.ofNat (if y < 69 then 2000 + y else 1900 + y), n % 100000000)
    | 12 => some (Int.ofNat (n / 100000000), n % 100000000)
    | _ => none
  let d : Day := ⟨year, rest / 1000000, rest / 10000 % 100⟩
  let (hour, minute) := (rest / 100 % 100, rest % 100)
  if 1 ≤ d.month && d.month ≤ 12 && 1 ≤ d.day && d.day ≤ monthLength d.year d.month && hour < 24 && minute < 60 &&
      second < 61 then some (seconds d hour minute second * 1000000000)
  else none

/-! ## Writing -/

/-- The names of months and of days of the week. -/
def months : List String :=
  ["January", "February", "March", "April", "May", "June", "July", "August", "September", "October", "November",
    "December"]

/-- The names of the days of the week, from Sunday on. -/
def weekdays : List String := ["Sunday", "Monday", "Tuesday", "Wednesday", "Thursday", "Friday", "Saturday"]

/-- A number with at least so many characters. -/
def padded (width : Nat) (fill : Char) (n : Int) : String :=
  let digits := Text.Decimal.text n.natAbs
  (if n < 0 then "-" else "") ++ String.ofList (List.replicate (width - digits.length) fill) ++ digits

/-- The number of the day of the week, from Sunday on. -/
def weekday (days : Int) : Nat := ((days + 4) % 7).toNat

/-- The week of the year by the standard, with the year that it belongs to. -/
def standardWeek (days : Int) : Int × Nat :=
  let thursday := days - Int.ofNat ((weekday days + 6) % 7) + 3
  let year := (ofDays thursday).year
  (year, ((thursday - Date.days ⟨year, 1, 1⟩) / 7).toNat + 1)

/-- What a letter of a format stands for, given nanoseconds. -/
def field (t : Int) (letter : Char) : String :=
  let second := t.fdiv 1000000000
  let nanos := (t - second * 1000000000).toNat
  let days := second.fdiv 86400
  let inDay := (second - days * 86400).toNat
  let (hour, minute, sec) := (inDay / 3600, inDay / 60 % 60, inDay % 60)
  let d := ofDays days
  let dayOfYear := (days - Date.days ⟨d.year, 1, 1⟩).toNat
  let two := fun (n : Nat) => padded 2 '0' n
  let month := months[d.month - 1]?.getD ""
  let name := weekdays[weekday days]?.getD ""
  let short := fun (s : String) => (s.take 3).toString
  let twelve := if hour % 12 = 0 then 12 else hour % 12
  let date := padded 0 '0' d.year ++ "-" ++ two d.month ++ "-" ++ two d.day
  let time := two hour ++ ":" ++ two minute ++ ":" ++ two sec
  match letter with
  | '%' => "%"
  | 'n' => "\n"
  | 't' => "\t"
  | 'a' => short name
  | 'A' => name
  | 'b' | 'h' => short month
  | 'B' => month
  | 'c' => short name ++ " " ++ short month ++ " " ++ padded 2 ' ' d.day ++ " " ++ time ++ " " ++ padded 0 '0' d.year
  | 'C' => padded 2 '0' (d.year / 100)
  | 'd' => two d.day
  | 'D' | 'x' => two d.month ++ "/" ++ two d.day ++ "/" ++ padded 2 '0' (d.year % 100)
  | 'e' => padded 2 ' ' d.day
  | 'F' => date
  | 'g' => padded 2 '0' ((standardWeek days).1 % 100)
  | 'G' => padded 0 '0' (standardWeek days).1
  | 'H' => two hour
  | 'I' => two twelve
  | 'j' => padded 3 '0' (Int.ofNat dayOfYear + 1)
  | 'k' => padded 2 ' ' hour
  | 'l' => padded 2 ' ' twelve
  | 'm' => two d.month
  | 'M' => two minute
  | 'N' => padded 9 '0' nanos
  | 'p' => if hour < 12 then "AM" else "PM"
  | 'P' => if hour < 12 then "am" else "pm"
  | 'q' => padded 0 '0' ((d.month + 2) / 3)
  | 'r' => two twelve ++ ":" ++ two minute ++ ":" ++ two sec ++ (if hour < 12 then " AM" else " PM")
  | 'R' => two hour ++ ":" ++ two minute
  | 's' => padded 0 '0' second
  | 'S' => two sec
  | 'T' | 'X' => time
  | 'u' => padded 0 '0' (if weekday days = 0 then 7 else weekday days)
  | 'U' => two ((dayOfYear + 7 - weekday days) / 7)
  | 'V' => two (standardWeek days).2
  | 'w' => padded 0 '0' (weekday days)
  | 'W' => two ((dayOfYear + 7 - (weekday days + 6) % 7) / 7)
  | 'y' => padded 2 '0' (d.year % 100)
  | 'Y' => padded 0 '0' d.year
  | 'z' => "+0000"
  | 'Z' => "UTC"
  | c => "%" ++ c.toString

/-- A moment in a format. -/
def text (t : Int) : List Char → String
  | [] => ""
  | '%' :: '-' :: c :: rest =>
    let s := (field t c).toList.dropWhile fun c => c = '0' || c = ' '
    (if s.isEmpty then "0" else String.ofList s) ++ text t rest
  | '%' :: '_' :: c :: rest =>
    let s := (field t c).toList
    let digits := s.dropWhile (· = '0')
    let kept := if digits.isEmpty then s.drop (s.length - 1) else digits
    String.ofList (List.replicate (s.length - kept.length) ' ' ++ kept) ++ text t rest
  | '%' :: c :: rest => field t c ++ text t rest
  | c :: rest => c.toString ++ text t rest

/-- The epoch began on the first day of 1970. -/
theorem ofDays_zero : ofDays 0 = ⟨1970, 1, 1⟩ := by decide

end Date

end RunLedger.Sandbox
