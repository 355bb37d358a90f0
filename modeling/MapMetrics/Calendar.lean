/-!
# Calendar dates and times of day

Dates of the Gregorian calendar from year 1 to year 9999, and moments: a date with a time of day
and, possibly, an offset from universal time. Dates and moments are made by functions that refuse
what the calendar does not have; the first field that is wrong is the one reported.

Dates and moments are written in two ways: plainly, in the ISO order of fields, and as the
expression that makes them.
-/

namespace MapMetrics.Calendar

/-- The ways in which numbers fail to be a date, a time of day or an offset. -/
inductive Impossible where
  /-- No such year. -/
  | year (n : Nat)
  /-- No such month. -/
  | month
  /-- The month has no such day. -/
  | day
  /-- No such hour. -/
  | hour
  /-- No such minute. -/
  | minute
  /-- No such second. -/
  | second
  /-- An offset, in seconds, of a day or more. -/
  | offset (seconds : Int)
  deriving DecidableEq, Repr

/-- A day of the calendar. -/
structure Date where
  /-- Year, from 1 to 9999. -/
  year : Nat
  /-- Month, from 1 to 12. -/
  month : Nat
  /-- Day of the month, from 1. -/
  day : Nat
  deriving DecidableEq, Repr

/-- A time of day. -/
structure TimeOfDay where
  /-- Hour, from 0 to 23. -/
  hour : Nat
  /-- Minute, from 0 to 59. -/
  minute : Nat
  /-- Second, from 0 to 59. -/
  second : Nat
  /-- Millionths of a second. -/
  micro : Nat
  deriving DecidableEq, Repr

/-- A date and a time of day, with the offset from universal time in seconds where it is known. -/
structure Moment where
  /-- Day. -/
  date : Date
  /-- Time of day. -/
  time : TimeOfDay
  /-- Seconds ahead of universal time. -/
  offset : Option Int
  deriving DecidableEq, Repr

/-- Leap years: every fourth year, but of the full centuries only every fourth. -/
def isLeap (year : Nat) : Bool :=
  year % 4 == 0 && (year % 100 != 0 || year % 400 == 0)

/-- The length of a month. -/
def daysInMonth (year month : Nat) : Nat :=
  if month = 2 then (if isLeap year then 29 else 28)
  else if [4, 6, 9, 11].contains month then 30
  else 31

/-- The date with a year, a month and a day. -/
def Date.make (year month day : Nat) : Except Impossible Date :=
  if year < 1 || 9999 < year then .error (.year year)
  else if month < 1 || 12 < month then .error .month
  else if day < 1 || daysInMonth year month < day then .error .day
  else .ok ⟨year, month, day⟩

/-- The time of day with an hour, a minute, a second and a fraction. -/
def TimeOfDay.make (hour minute second micro : Nat) : Except Impossible TimeOfDay :=
  if 23 < hour then .error .hour
  else if 59 < minute then .error .minute
  else if 59 < second then .error .second
  else .ok ⟨hour, minute, second, micro⟩

/-- Seconds in a day. -/
def daySeconds : Nat := 86400

/-- An offset from universal time is shorter than a day. -/
def checkOffset (seconds : Int) : Except Impossible Int :=
  if daySeconds ≤ seconds.natAbs then .error (.offset seconds) else .ok seconds

/-- Days before a date, counted from the first day of year 1. -/
def Date.ordinal (d : Date) : Nat :=
  let before := d.year - 1
  before * 365 + before / 4 - before / 100 + before / 400 +
    (List.range (d.month - 1)).foldl (fun days m => days + daysInMonth d.year (m + 1)) 0 + d.day - 1

/-- Millionths of a second since the first day of year 1, on the clock that the moment shows. -/
def Moment.clock (m : Moment) : Int :=
  let seconds := ((m.date.ordinal * 24 + m.time.hour) * 60 + m.time.minute) * 60 + m.time.second
  (seconds * 1000000 + m.time.micro : Nat)

/-- Two moments are the same instant. A moment whose offset is unknown is only the same as another
such moment. -/
def Moment.sameInstant (a b : Moment) : Bool :=
  match a.offset, b.offset with
  | none, none => a.clock == b.clock
  | some x, some y => a.clock - x * 1000000 == b.clock - y * 1000000
  | _, _ => false

private def pad (width n : Nat) : String :=
  let digits := Nat.toDigits 10 n
  String.ofList (List.replicate (width - digits.length) '0' ++ digits)

/-- A date as it is read. -/
def Date.display (d : Date) : String :=
  pad 4 d.year ++ "-" ++ pad 2 d.month ++ "-" ++ pad 2 d.day

private def offsetText (seconds : Int) : String :=
  let minutes := seconds.natAbs / 60
  (if seconds < 0 then "-" else "+") ++ pad 2 (minutes / 60) ++ ":" ++ pad 2 (minutes % 60)

/-- A moment as it is read. -/
def Moment.display (m : Moment) : String :=
  m.date.display ++ " " ++ pad 2 m.time.hour ++ ":" ++ pad 2 m.time.minute ++ ":" ++
    pad 2 m.time.second ++ (if m.time.micro = 0 then "" else "." ++ pad 6 m.time.micro) ++
    (m.offset.map offsetText).getD ""

private def call (name : String) (arguments : List String) : String :=
  "datetime." ++ name ++ "(" ++ ", ".intercalate arguments ++ ")"

/-- The expression that makes a date. -/
def Date.expression (d : Date) : String :=
  call "date" [toString d.year, toString d.month, toString d.day]

/-- The expression that makes a span of seconds: whole days, and what is left, not negative. -/
def spanExpression (seconds : Int) : String :=
  let days := seconds.fdiv daySeconds
  let rest := seconds.fmod daySeconds
  let parts := (if days = 0 then [] else ["days=" ++ toString days]) ++
    (if rest = 0 then [] else ["seconds=" ++ toString rest])
  call "timedelta" (if parts.isEmpty then ["0"] else parts)

private def zoneExpression (seconds : Int) : String :=
  if seconds = 0 then "datetime.timezone.utc" else call "timezone" [spanExpression seconds]

/-- The expression that makes a moment. Seconds and fractions that are zero are left out from the
end. -/
def Moment.expression (m : Moment) : String :=
  let fields := [m.date.year, m.date.month, m.date.day, m.time.hour, m.time.minute]
  let seconds :=
    if m.time.micro ≠ 0 then [m.time.second, m.time.micro]
    else if m.time.second ≠ 0 then [m.time.second]
    else []
  call "datetime" ((fields ++ seconds).map toString ++
    (m.offset.map fun s => "tzinfo=" ++ zoneExpression s).toList)

/-- What is wrong with the numbers. -/
def Impossible.message : Impossible → String
  | .year n => "year " ++ toString n ++ " is out of range"
  | .month => "month must be in 1..12"
  | .day => "day is out of range for month"
  | .hour => "hour must be in 0..23"
  | .minute => "minute must be in 0..59"
  | .second => "second must be in 0..59"
  | .offset seconds =>
    "offset must be a timedelta strictly between -timedelta(hours=24) and " ++
      "timedelta(hours=24), not " ++ spanExpression seconds ++ "."

end MapMetrics.Calendar
