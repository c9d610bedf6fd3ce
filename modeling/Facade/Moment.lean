/-!
# Dates and times of day

* `Date`, `Clock`: a day of the calendar and a time of day.
* `Moment`: a day, a time of day, or both, with the distance from universal time if that is known.
* `Moment.text`, `Moment.display`: how a moment is written, and how it is shown to a programmer.
-/

namespace Facade

/-- A day of the calendar. -/
structure Date where
  /-- The year. -/
  year : Nat
  /-- The month, counted from one. -/
  month : Nat
  /-- The day of the month, counted from one. -/
  day : Nat
  deriving DecidableEq, Repr, Inhabited

/-- Whether a year has a leap day. -/
def isLeapYear (y : Nat) : Bool := y % 4 == 0 && (y % 100 != 0 || y % 400 == 0)

/-- The number of days in a month. -/
def daysInMonth (y m : Nat) : Nat :=
  if m == 2 then if isLeapYear y then 29 else 28
  else if [4, 6, 9, 11].contains m then 30
  else 31

/-- Whether there is such a day. -/
def Date.isValid (d : Date) : Bool :=
  1 ≤ d.year && d.year ≤ 9999 && 1 ≤ d.month && d.month ≤ 12 && 1 ≤ d.day &&
    d.day ≤ daysInMonth d.year d.month

/-- A time of day. -/
structure Clock where
  /-- The hour. -/
  hour : Nat
  /-- The minute. -/
  minute : Nat
  /-- The second. -/
  second : Nat
  /-- The millionths of a second. -/
  micros : Nat := 0
  deriving DecidableEq, Repr, Inhabited

/-- A day, a time of day, or both. -/
inductive Moment where
  | date (d : Date)
  | time (t : Clock)
  /-- A day and a time, with the minutes by which local time is ahead of universal time. -/
  | instant (d : Date) (t : Clock) (ahead : Option Int)
  deriving DecidableEq, Repr, Inhabited

/-- A number with zeros in front of it up to a width. -/
def zeroPadded (width n : Nat) : String :=
  let s := toString n
  String.ofList (List.replicate (width - s.length) '0') ++ s

/-- The text of a day. -/
def Date.text (d : Date) : String :=
  zeroPadded 4 d.year ++ "-" ++ zeroPadded 2 d.month ++ "-" ++ zeroPadded 2 d.day

/-- The text of a time of day: millionths only if there are any. -/
def Clock.text (t : Clock) : String :=
  zeroPadded 2 t.hour ++ ":" ++ zeroPadded 2 t.minute ++ ":" ++ zeroPadded 2 t.second ++
    (if t.micros = 0 then "" else "." ++ zeroPadded 6 t.micros)

/-- The parts of a time of day, seconds and millionths only as far as they are needed. -/
def Clock.parts (t : Clock) : List Nat :=
  [t.hour, t.minute] ++
    (if t.micros ≠ 0 then [t.second, t.micros] else if t.second ≠ 0 then [t.second] else [])

namespace Moment

/-- The text of the distance from universal time. -/
def aheadText (m : Int) : String :=
  (if m < 0 then "-" else "+") ++ zeroPadded 2 (m.natAbs / 60) ++ ":" ++
    zeroPadded 2 (m.natAbs % 60)

/-- The text of a moment. -/
def text : Moment → String
  | .date d => d.text
  | .time t => t.text
  | .instant d t ahead => d.text ++ " " ++ t.text ++ (ahead.map aheadText).getD ""

/-- The name of a moment's class. -/
def className : Moment → String
  | .date _ => "date"
  | .time _ => "time"
  | .instant _ _ _ => "datetime"

/-- How the distance from universal time is shown: whole days below zero, and seconds. -/
def aheadDisplay (m : Int) : String :=
  if m = 0 then "datetime.timezone.utc"
  else
    let days := if m < 0 then "days=-1, " else ""
    let seconds := (m * 60) % 86400
    "datetime.timezone(datetime.timedelta(" ++ days ++ "seconds=" ++ toString seconds ++ "))"

/-- The text that shows a moment to a programmer. -/
def display (m : Moment) : String :=
  let parts (ns : List Nat) : List String := ns.map toString
  let fields : List String := match m with
    | .date d => parts [d.year, d.month, d.day]
    | .time t => parts t.parts
    | .instant d t ahead =>
      parts ([d.year, d.month, d.day] ++ t.parts) ++
        (ahead.map fun a => "tzinfo=" ++ aheadDisplay a).toList
  "datetime." ++ m.className ++ "(" ++ ", ".intercalate fields ++ ")"

end Moment

end Facade
