/-
# Days and times

A day is a year from 1 to 9999, a month and a day of that month; a moment is a day with a time of
day and perhaps an offset from universal time, of less than a day. `Date.of?` and `DateTime.of?`
build them from numbers and name the first number that does not fit (`DateFault`).

Two moments with an offset are the same when they are one point of time (`DateTime.sameMoment`); a
moment without one is never the same as one with it.

Texts come in two forms: the plain one (`2020-01-31`, `2020-01-31 09:30:00`), which also serves as
a key, and the one that messages show (`Date.shown`, `DateTime.shown`).
-/

namespace TestSelection

/-- A day of the calendar. -/
structure Date where
  year : Nat
  month : Nat
  day : Nat
  deriving DecidableEq

/-- A day with a time of day. -/
structure DateTime where
  date : Date
  hour : Nat
  minute : Nat
  second : Nat
  microsecond : Nat
  /-- Minutes ahead of universal time, where the text gives them. -/
  offset : Option Int
  deriving DecidableEq

/-- The number that makes a day or a time impossible. -/
inductive DateFault where
  | year (n : Nat)
  | month
  | day
  | hour
  | minute
  | second
  | offset (minutes : Int)
  deriving DecidableEq

/-- A number in decimal digits, at least `width` of them. -/
def padded (width n : Nat) : String :=
  let ds := Nat.toDigits 10 n
  String.ofList (List.replicate (width - ds.length) '0' ++ ds)

/-- A leap year of the Gregorian calendar. -/
def isLeapYear (year : Nat) : Bool := year % 4 = 0 && (year % 100 != 0 || year % 400 = 0)

/-- How many days a month has. -/
def daysInMonth (year month : Nat) : Nat :=
  if month = 2 then (if isLeapYear year then 29 else 28)
  else if month = 4 ∨ month = 6 ∨ month = 9 ∨ month = 11 then 30
  else 31

/-- A span of minutes as messages show it: whole days, rounded down, and the seconds above. -/
def shownSpan (minutes : Int) : String :=
  let days := minutes.fdiv 1440
  let seconds := (minutes.fmod 1440) * 60
  let parts := (if days = 0 then [] else ["days=" ++ toString days]) ++
    (if seconds = 0 then [] else ["seconds=" ++ toString seconds])
  "datetime.timedelta(" ++ (if parts.isEmpty then "0" else ", ".intercalate parts) ++ ")"

namespace DateFault

/-- What is wrong with the numbers of a day or a time. -/
def message : DateFault → String
  | .year n => "year " ++ toString n ++ " is out of range"
  | .month => "month must be in 1..12"
  | .day => "day is out of range for month"
  | .hour => "hour must be in 0..23"
  | .minute => "minute must be in 0..59"
  | .second => "second must be in 0..59"
  | .offset minutes =>
    "offset must be a timedelta strictly between -timedelta(hours=24) and " ++
      "timedelta(hours=24), not " ++ shownSpan minutes ++ "."

end DateFault

namespace Date

/-- How many days the months before a month have. -/
def daysBefore (year : Nat) : Nat → Nat
  | 0 => 0
  | month + 1 => if month = 0 then 0 else daysBefore year month + daysInMonth year month

/-- The number of a day, counted from the first day of the year 1. -/
def number (d : Date) : Nat :=
  let years := d.year - 1
  365 * years + years / 4 - years / 100 + years / 400 + daysBefore d.year d.month + d.day

/-- The day with these numbers, which are looked at from the year on. -/
def of? (year month day : Nat) : Except DateFault Date :=
  if year = 0 ∨ 9999 < year then throw (.year year)
  else if month = 0 ∨ 12 < month then throw .month
  else if day = 0 ∨ daysInMonth year month < day then throw .day
  else pure ⟨year, month, day⟩

/-- The day as `2020-01-31`. -/
def text (d : Date) : String := padded 4 d.year ++ "-" ++ padded 2 d.month ++ "-" ++ padded 2 d.day

/-- The day as messages show it. -/
def shown (d : Date) : String :=
  "datetime.date(" ++ ", ".intercalate [toString d.year, toString d.month, toString d.day] ++ ")"

end Date

namespace DateTime

/-- The moment with these numbers. The offset is looked at first, then the day, then the time. -/
def of? (year month day hour minute second microsecond : Nat) (offset : Option Int) :
    Except DateFault DateTime := do
  if let some minutes := offset then
    if 1440 ≤ minutes.natAbs then throw (.offset minutes)
  let date ← Date.of? year month day
  if 23 < hour then throw .hour
  if 59 < minute then throw .minute
  if 59 < second then throw .second
  return ⟨date, hour, minute, second, microsecond, offset⟩

/-- The minutes up to a moment, in universal time if it has an offset. -/
def minutes (t : DateTime) : Int :=
  (1440 * t.date.number + 60 * t.hour + t.minute : Nat) - t.offset.getD 0

/-- Whether two moments are the same. -/
def sameMoment (t u : DateTime) : Bool :=
  t.offset.isSome == u.offset.isSome && t.minutes == u.minutes && t.second == u.second &&
    t.microsecond == u.microsecond

/-- An offset as `+05:30`. -/
def offsetText (minutes : Int) : String :=
  (if minutes < 0 then "-" else "+") ++ padded 2 (minutes.natAbs / 60) ++ ":" ++
    padded 2 (minutes.natAbs % 60)

/-- The moment as `2020-01-31 09:30:00`, with microseconds and offset where it has them. -/
def text (t : DateTime) : String :=
  t.date.text ++ " " ++ padded 2 t.hour ++ ":" ++ padded 2 t.minute ++ ":" ++ padded 2 t.second ++
    (if t.microsecond = 0 then "" else "." ++ padded 6 t.microsecond) ++
    (t.offset.map offsetText).getD ""

/-- An offset as messages show it. -/
def shownOffset (minutes : Int) : String :=
  if minutes = 0 then "datetime.timezone.utc"
  else "datetime.timezone(" ++ shownSpan minutes ++ ")"

/-- The moment as messages show it: microseconds that are zero are left out, and then so are
seconds that are zero. -/
def shown (t : DateTime) : String :=
  let small :=
    if t.microsecond ≠ 0 then [t.second, t.microsecond]
    else if t.second ≠ 0 then [t.second]
    else []
  let numbers := [t.date.year, t.date.month, t.date.day, t.hour, t.minute] ++ small
  "datetime.datetime(" ++ ", ".intercalate (numbers.map toString) ++
    (t.offset.map fun m => ", tzinfo=" ++ shownOffset m).getD "" ++ ")"

end DateTime
end TestSelection
