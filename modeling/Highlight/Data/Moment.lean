/-!
# Dates and times

Days of the Gregorian calendar, times of a day to the microsecond, and both together, possibly with the
distance from universal time.  A moment is written in two ways: on its own in the form of ISO 8601, and
inside another value as the call that makes it.
-/

namespace Highlight

/-! ## The calendar -/

/-- Whether February has 29 days. -/
def isLeapYear (year : Nat) : Bool := year % 4 == 0 && (year % 100 != 0 || year % 400 == 0)

/-- The number of days of a month. -/
def daysOfMonth (year month : Nat) : Nat :=
  if month = 2 then (if isLeapYear year then 29 else 28)
  else if month = 4 ∨ month = 6 ∨ month = 9 ∨ month = 11 then 30
  else 31

/-- A day of the years 1 to 9999. -/
structure Date where
  year : Nat
  month : Nat
  day : Nat
  year_mem : 1 ≤ year ∧ year ≤ 9999
  month_mem : 1 ≤ month ∧ month ≤ 12
  day_mem : 1 ≤ day ∧ day ≤ daysOfMonth year month
  deriving DecidableEq

/-- The day with these numbers, if there is one. -/
def Date.of? (year month day : Nat) : Option Date :=
  if h : (1 ≤ year ∧ year ≤ 9999) ∧ (1 ≤ month ∧ month ≤ 12) ∧ 1 ≤ day ∧ day ≤ daysOfMonth year month then
    some ⟨year, month, day, h.1, h.2.1, h.2.2⟩
  else none

/-- A time of a day. -/
structure TimeOfDay where
  hour : Nat
  minute : Nat
  second : Nat
  microsecond : Nat
  hour_lt : hour < 24
  minute_lt : minute < 60
  second_lt : second < 60
  microsecond_lt : microsecond < 1000000
  deriving DecidableEq

/-- The time with these numbers, if there is one. -/
def TimeOfDay.of? (hour minute second microsecond : Nat) : Option TimeOfDay :=
  if h : hour < 24 ∧ minute < 60 ∧ second < 60 ∧ microsecond < 1000000 then
    some ⟨hour, minute, second, microsecond, h.1, h.2.1, h.2.2.1, h.2.2.2⟩
  else none

/-- How far the clocks of a place are ahead of universal time, or behind it. -/
structure ZoneOffset where
  ahead : Bool
  minutes : Nat
  minutes_lt : minutes < 1440
  deriving DecidableEq

/-- The offset with these numbers, if there is one. -/
def ZoneOffset.of? (ahead : Bool) (hours minutes : Nat) : Option ZoneOffset :=
  if h : 60 * hours + minutes < 1440 then some ⟨ahead, 60 * hours + minutes, h⟩ else none

/-- Universal time. -/
def ZoneOffset.utc : ZoneOffset := ⟨true, 0, by decide⟩

/-- A date, a time, or both. -/
inductive Moment where
  | date (d : Date)
  | time (t : TimeOfDay)
  | dateTime (d : Date) (t : TimeOfDay) (zone : Option ZoneOffset)
  deriving DecidableEq

/-! ## Texts -/

/-- The decimal digits of `n`, with zeros before them up to `width` digits. -/
def padded (width n : Nat) : String :=
  let digits := toString n
  String.ofList (List.replicate (width - digits.length) '0') ++ digits

/-- The numbers of a date, in a call. -/
def Date.arguments (d : Date) : List String := [d.year, d.month, d.day].map toString

/-- The numbers of a time, in a call: zeros at the end are left out, but hour and minute stay. -/
def TimeOfDay.arguments (t : TimeOfDay) : List String :=
  let numbers :=
    if t.microsecond ≠ 0 then [t.hour, t.minute, t.second, t.microsecond]
    else if t.second ≠ 0 then [t.hour, t.minute, t.second]
    else [t.hour, t.minute]
  numbers.map toString

/-- The call that makes an offset. -/
def ZoneOffset.call (z : ZoneOffset) : String :=
  if z.minutes = 0 then "datetime.timezone.utc"
  else
    let delta :=
      if z.ahead then s!"seconds={60 * z.minutes}" else s!"days=-1, seconds={86400 - 60 * z.minutes}"
    "datetime.timezone(datetime.timedelta(" ++ delta ++ "))"

namespace Moment

/-- A function with its arguments. -/
def callText (name : String) (arguments : List String) : String :=
  "datetime." ++ name ++ "(" ++ ", ".intercalate arguments ++ ")"

/-- The call that makes a moment. -/
def call : Moment → String
  | .date d => callText "date" d.arguments
  | .time t => callText "time" t.arguments
  | .dateTime d t zone =>
    callText "datetime" (d.arguments ++ t.arguments ++ zone.toList.map fun z => "tzinfo=" ++ z.call)

/-- The number of calls in each other that it takes to write the call. -/
def nesting : Moment → Nat
  | .date _ | .time _ | .dateTime _ _ none => 1
  | .dateTime _ _ (some z) => if z.minutes = 0 then 2 else 3

end Moment

/-- Year, month and day. -/
def Date.text (d : Date) : String :=
  padded 4 d.year ++ "-" ++ padded 2 d.month ++ "-" ++ padded 2 d.day

/-- Hour, minute and second, and the microseconds if there are any. -/
def TimeOfDay.text (t : TimeOfDay) : String :=
  padded 2 t.hour ++ ":" ++ padded 2 t.minute ++ ":" ++ padded 2 t.second ++
    if t.microsecond = 0 then "" else "." ++ padded 6 t.microsecond

/-- The sign, hours and minutes of an offset. -/
def ZoneOffset.text (z : ZoneOffset) : String :=
  (if z.ahead ∨ z.minutes = 0 then "+" else "-") ++ padded 2 (z.minutes / 60) ++ ":" ++
    padded 2 (z.minutes % 60)

/-- A moment on its own. -/
def Moment.text : Moment → String
  | .date d => d.text
  | .time t => t.text
  | .dateTime d t zone => d.text ++ " " ++ t.text ++ (zone.map (·.text)).getD ""

end Highlight
