/-!
# Dates and times of day

A settings file may hold dates (`2001-12-14`) and times of day on a date
(`2001-12-14 21:59:43.10 -5`). A time is naive, or aware of its offset from UTC.

Dates compare by their place in the calendar. Times compare by the instant they name, which
for an aware time is taken in UTC, so two aware times with different offsets may be the same
instant. A naive and an aware time name no common instant: they are never equal, and asking
which comes first is an error.

The calendar is the proleptic Gregorian one: a year divisible by 4 is a leap year, unless
it is divisible by 100 and not by 400.
-/

namespace PineCheck

/-- A calendar date. -/
structure Date where
  year : Nat
  month : Nat
  day : Nat
  deriving DecidableEq, Repr, Inhabited

/-- A time of day on a date, to the microsecond, and for an aware time its offset from UTC
in seconds. -/
structure DateTime where
  date : Date
  hour : Nat
  minute : Nat
  second : Nat
  micro : Nat
  offset : Option Int
  deriving DecidableEq, Repr, Inhabited

namespace Date

/-- Whether a year is a leap year. -/
def isLeapYear (y : Nat) : Bool := y % 4 == 0 && (y % 100 != 0 || y % 400 == 0)

/-- The days of a month. -/
def daysInMonth (y m : Nat) : Nat :=
  if m == 2 then (if isLeapYear y then 29 else 28)
  else if m == 4 || m == 6 || m == 9 || m == 11 then 30
  else 31

/-- The days of a year before the first of a month. -/
def daysBeforeMonth (y m : Nat) : Nat :=
  ((List.range (m - 1)).map fun i => daysInMonth y (i + 1)).foldr (· + ·) 0

/-- The days from the first of January of year 1 to the date. -/
def dayNumber (d : Date) : Nat :=
  let y := d.year - 1
  y * 365 + y / 4 - y / 100 + y / 400 + daysBeforeMonth d.year d.month + (d.day - 1)

/-- Whether one date comes before another. -/
def before (a b : Date) : Bool := a.dayNumber < b.dayNumber

/-- The date as a literal. -/
def literal (d : Date) : String := s!"datetime.date({d.year}, {d.month}, {d.day})"

end Date

namespace DateTime

/-- The instant a time names, in microseconds from the start of year 1: in UTC for an aware
time, on its own clock for a naive one. -/
def instant (t : DateTime) : Int :=
  let seconds : Nat := t.date.dayNumber * 86400 + t.hour * 3600 + t.minute * 60 + t.second
  (seconds * 1000000 + t.micro : Nat) - t.offset.getD 0 * 1000000

/-- Whether two times are the same instant; a naive and an aware time never are. -/
def same (a b : DateTime) : Bool :=
  a.offset.isSome == b.offset.isSome && a.instant == b.instant

/-- Whether one time comes before another, or the error of comparing a naive time with an
aware one. -/
def before (a b : DateTime) : Except String Bool :=
  if a.offset.isSome != b.offset.isSome then
    .error "can't compare offset-naive and offset-aware datetimes"
  else .ok (a.instant < b.instant)

/-- A span of seconds as a literal: whole days (rounded down) and the seconds left. -/
def spanLiteral (total : Int) : String :=
  let days := total / 86400
  let seconds := total % 86400
  let days := if seconds < 0 then days - 1 else days
  let seconds := if seconds < 0 then seconds + 86400 else seconds
  let parts := (if days != 0 then [s!"days={days}"] else []) ++
    (if seconds != 0 then [s!"seconds={seconds}"] else [])
  if parts.isEmpty then "datetime.timedelta(0)"
  else "datetime.timedelta(" ++ ", ".intercalate parts ++ ")"

/-- The time as a literal: the second and microsecond only when not zero, then the offset
of an aware time. -/
def literal (t : DateTime) : String :=
  let d := t.date
  let fields := [d.year, d.month, d.day, t.hour, t.minute] ++
    (if t.micro != 0 then [t.second, t.micro] else if t.second != 0 then [t.second] else [])
  let zone := match t.offset with
    | none => ""
    | some 0 => ", tzinfo=datetime.timezone.utc"
    | some s => ", tzinfo=datetime.timezone(" ++ spanLiteral s ++ ")"
  "datetime.datetime(" ++ ", ".intercalate (fields.map toString) ++ zone ++ ")"

end DateTime

end PineCheck
