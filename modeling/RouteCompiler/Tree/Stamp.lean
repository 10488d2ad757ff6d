/-
**Calendar days and points in time.**

A document may hold calendar days and points in time. A point in time has a clock reading to the
microsecond and, when the document gives one, an offset from universal time.

* `Stamp.date?`, `Stamp.dateTime?`: a stamp from its parts, if the calendar and the clock have them;
* `Stamp.text`: the text of a stamp, `2020-01-02` or `2020-01-02 03:04:05+00:00`;
* `Stamp.literal`: the spelling of a stamp inside a quoted collection.
-/

namespace RouteCompiler

/-- A calendar day. -/
structure Date where
  year : Nat
  month : Nat
  day : Nat
  deriving DecidableEq, Repr, Inhabited

/-- A clock reading, with the offset from universal time in minutes when it is known. -/
structure Clock where
  hour : Nat
  minute : Nat
  second : Nat
  microsecond : Nat
  offset : Option Int
  deriving DecidableEq, Repr, Inhabited

/-- A calendar day or a point in time. -/
inductive Stamp where
  /-- A calendar day. -/
  | date (date : Date)
  /-- A day and a clock reading on it. -/
  | dateTime (date : Date) (clock : Clock)
  deriving DecidableEq, Repr, Inhabited

/-! ### The calendar -/

/-- Whether a year has a leap day. -/
def isLeapYear (year : Nat) : Bool :=
  year % 4 == 0 && (year % 100 != 0 || year % 400 == 0)

/-- The number of days of a month. -/
def daysInMonth (year month : Nat) : Nat :=
  if month = 2 then (if isLeapYear year then 29 else 28)
  else if month = 4 ∨ month = 6 ∨ month = 9 ∨ month = 11 then 30
  else 31

/-- Whether the calendar has the day. The first year is year one. -/
def Date.isValid (date : Date) : Bool :=
  decide (1 ≤ date.year) && decide (1 ≤ date.month) && decide (date.month ≤ 12) &&
    decide (1 ≤ date.day) && decide (date.day ≤ daysInMonth date.year date.month)

/-- Whether the clock has the reading, with an offset of less than a day. -/
def Clock.isValid (clock : Clock) : Bool :=
  decide (clock.hour < 24) && decide (clock.minute < 60) && decide (clock.second < 60) &&
    clock.offset.all fun minutes => decide (minutes.natAbs < 1440)

namespace Stamp

/-- The stamp of a day of the calendar. -/
def date? (day : Date) : Option Stamp :=
  if day.isValid then some (.date day) else none

/-- The stamp of a clock reading on a day of the calendar. -/
def dateTime? (day : Date) (clock : Clock) : Option Stamp :=
  if day.isValid && clock.isValid then some (.dateTime day clock) else none

/-! ### Text -/

/-- A number in at least `width` decimal digits. -/
def padded (width n : Nat) : String :=
  let digits := Nat.toDigits 10 n
  String.ofList (List.replicate (width - digits.length) '0' ++ digits)

/-- The text of a day. -/
def dateText (day : Date) : String :=
  padded 4 day.year ++ "-" ++ padded 2 day.month ++ "-" ++ padded 2 day.day

/-- The text of an offset: a sign, hours and minutes. -/
def offsetText (minutes : Int) : String :=
  (if minutes < 0 then "-" else "+") ++ padded 2 (minutes.natAbs / 60) ++ ":" ++
    padded 2 (minutes.natAbs % 60)

/-- The text of a clock reading. Microseconds and offset are left out when there are none. -/
def clockText (clock : Clock) : String :=
  padded 2 clock.hour ++ ":" ++ padded 2 clock.minute ++ ":" ++ padded 2 clock.second ++
    (if clock.microsecond = 0 then "" else "." ++ padded 6 clock.microsecond) ++
    (clock.offset.map offsetText).getD ""

/-- The text of a stamp. -/
def text : Stamp → String
  | .date day => dateText day
  | .dateTime day clock => dateText day ++ " " ++ clockText clock

/-- The spelling of an offset inside a quoted collection. -/
def offsetLiteral (minutes : Int) : String :=
  let seconds := toString ((minutes % 1440) * 60)
  if minutes = 0 then "datetime.timezone.utc"
  else if minutes < 0 then
    "datetime.timezone(datetime.timedelta(days=-1, seconds=" ++ seconds ++ "))"
  else "datetime.timezone(datetime.timedelta(seconds=" ++ seconds ++ "))"

/-- The spelling of a stamp inside a quoted collection. Seconds and microseconds are left out when
nothing but zeros would follow the minute. -/
def literal : Stamp → String
  | .date day =>
    "datetime.date(" ++ ", ".intercalate ([day.year, day.month, day.day].map toString) ++ ")"
  | .dateTime day clock =>
    let fields := [day.year, day.month, day.day, clock.hour, clock.minute]
    let tail :=
      if clock.microsecond ≠ 0 then [clock.second, clock.microsecond]
      else if clock.second ≠ 0 then [clock.second]
      else []
    let offset := (clock.offset.map fun minutes => ["tzinfo=" ++ offsetLiteral minutes]).getD []
    "datetime.datetime(" ++ ", ".intercalate ((fields ++ tail).map toString ++ offset) ++ ")"

end Stamp

end RouteCompiler
