import ILGraft.Text.Digit
import ILGraft.Text.Numeral

/-!
# Dates and times

A moment is a date, a time of day, or both together, then perhaps with an offset from universal
time. Fractions of a second keep six digits.
-/

namespace ILGraft.Toml

/-- A day of the calendar. -/
structure CalendarDate where
  /-- The year. -/
  year : Nat
  /-- The month, from one. -/
  month : Nat
  /-- The day of the month, from one. -/
  day : Nat
deriving Repr, DecidableEq

/-- A time of day. -/
structure ClockTime where
  /-- The hour. -/
  hour : Nat
  /-- The minute. -/
  minute : Nat
  /-- The second. -/
  second : Nat
  /-- The millionths of the second. -/
  microsecond : Nat
deriving Repr, DecidableEq

/-- A date, a time, or both. -/
inductive Moment
  /-- A date. -/
  | dated (date : CalendarDate)
  /-- A time of day. -/
  | timed (time : ClockTime)
  /-- A time on a date, and how many minutes it is ahead of universal time if that is known. -/
  | instant (date : CalendarDate) (time : ClockTime) (offset? : Option Int)
deriving Repr, DecidableEq

namespace CalendarDate

/-- Whether a year has a leap day. -/
def isLeapYear (year : Nat) : Bool :=
  year % 4 == 0 && (year % 100 != 0 || year % 400 == 0)

/-- The number of days of a month. -/
def daysOfMonth (year month : Nat) : Nat :=
  if month = 2 then (if isLeapYear year then 29 else 28)
  else if month = 4 ∨ month = 6 ∨ month = 9 ∨ month = 11 then 30
  else 31

/-- Whether a date is in the calendar, which begins with the year one. -/
def isValid (date : CalendarDate) : Bool :=
  1 ≤ date.year && 1 ≤ date.month && date.month ≤ 12 && 1 ≤ date.day &&
    date.day ≤ daysOfMonth date.year date.month

/-- The text of a date. -/
def text (date : CalendarDate) : String :=
  Text.zeroPadded 4 date.year ++ "-" ++ Text.zeroPadded 2 date.month ++ "-"
    ++ Text.zeroPadded 2 date.day

end CalendarDate

/-- The text of a time; a fraction is written only if there is one. -/
def ClockTime.text (time : ClockTime) : String :=
  Text.zeroPadded 2 time.hour ++ ":" ++ Text.zeroPadded 2 time.minute ++ ":"
    ++ Text.zeroPadded 2 time.second
    ++ (if time.microsecond = 0 then "" else "." ++ Text.zeroPadded 6 time.microsecond)

/-- The text of an offset in minutes. -/
def offsetText (offset : Int) : String :=
  (if offset < 0 then "-" else "+") ++ Text.zeroPadded 2 (offset.natAbs / 60) ++ ":"
    ++ Text.zeroPadded 2 (offset.natAbs % 60)

/-- The text of a moment, with a separator between date and time. -/
def Moment.text (separator : String) : Moment → String
  | .dated date => date.text
  | .timed time => time.text
  | .instant date time offset? =>
    date.text ++ separator ++ time.text ++ (offset?.map offsetText).getD ""

/-- The numbers of a time in an expression. The second is left out if it is zero and no fraction
follows, the fraction if it is zero. -/
def ClockTime.numbers (time : ClockTime) : List Nat :=
  [time.hour, time.minute] ++
    (if time.microsecond ≠ 0 then [time.second, time.microsecond]
    else if time.second ≠ 0 then [time.second]
    else [])

/-- Numbers as the arguments of an expression. -/
def argumentsText (numbers : List Nat) : String :=
  ", ".intercalate (numbers.map fun (number : Nat) => Text.numeral number)

/-- The expression for an offset in minutes: whole days, which only a negative offset needs, and
the seconds of a day. -/
def offsetExpression (offset : Int) : String :=
  if offset = 0 then "datetime.timezone.utc"
  else "datetime.timezone(datetime.timedelta(" ++ (if offset < 0 then "days=-1, " else "")
    ++ "seconds=" ++ Text.numeral ((60 * offset) % 86400) ++ "))"

/-- The expression for a moment: what kind it is of, with its numbers. -/
def Moment.expression : Moment → String
  | .dated date => "datetime.date(" ++ argumentsText [date.year, date.month, date.day] ++ ")"
  | .timed time => "datetime.time(" ++ argumentsText time.numbers ++ ")"
  | .instant date time offset? =>
    "datetime.datetime(" ++ argumentsText ([date.year, date.month, date.day] ++ time.numbers)
      ++ (offset?.map fun offset => ", tzinfo=" ++ offsetExpression offset).getD "" ++ ")"

namespace Moment

/-- Reads a number of exactly so many ASCII digits that lies in a range. -/
def number? (count low high : Nat) (text : List Char) : Option (Nat × List Char) :=
  let digits := text.take count
  let value := Text.valueOfDigits (digits.filterMap Text.digitValue?)
  if digits.length = count ∧ digits.all Text.isAsciiDigit ∧ low ≤ value ∧ value ≤ high then
    some (value, text.drop count)
  else none

/-- Reads one character. -/
def mark? (c : Char) : List Char → Option (List Char)
  | [] => none
  | d :: rest => if c = d then some rest else none

/-- Reads the fraction of a second, if there is one; digits beyond the sixth are dropped. -/
def fraction (text : List Char) : Nat × List Char :=
  match text with
  | '.' :: rest =>
    let digits := rest.takeWhile Text.isAsciiDigit
    if digits = [] then (0, text)
    else
      let six := (digits ++ List.replicate 6 '0').take 6
      (Text.valueOfDigits (six.filterMap Text.digitValue?), rest.dropWhile Text.isAsciiDigit)
  | _ => (0, text)

/-- Reads a time of day. -/
def time? (text : List Char) : Option (ClockTime × List Char) := do
  let (hour, text) ← number? 2 0 23 text
  let (minute, text) ← number? 2 0 59 (← mark? ':' text)
  let (second, text) ← number? 2 0 59 (← mark? ':' text)
  let (microsecond, text) := fraction text
  return (⟨hour, minute, second, microsecond⟩, text)

/-- Reads a date; whether its month has so many days is not looked at. -/
def date? (text : List Char) : Option (CalendarDate × List Char) := do
  let (year, text) ← number? 4 0 9999 text
  let (month, text) ← number? 2 1 12 (← mark? '-' text)
  let (day, text) ← number? 2 1 31 (← mark? '-' text)
  return (⟨year, month, day⟩, text)

/-- Reads an offset from universal time. -/
def offset? : List Char → Option (Int × List Char)
  | 'Z' :: rest | 'z' :: rest => some (0, rest)
  | sign :: rest => do
    if sign ≠ '+' ∧ sign ≠ '-' then none
    let (hours, rest) ← number? 2 0 23 rest
    let (minutes, rest) ← number? 2 0 59 (← mark? ':' rest)
    let ahead : Int := 60 * hours + minutes
    return (if sign = '-' then -ahead else ahead, rest)
  | [] => none

/-- Reads the time that follows a date, with its offset. -/
def timeOfDate? : List Char → Option (ClockTime × Option Int × List Char)
  | separator :: rest => do
    if separator ≠ 'T' ∧ separator ≠ 't' ∧ separator ≠ ' ' then none
    let (time, rest) ← time? rest
    match offset? rest with
    | some (offset, rest) => return (time, some offset, rest)
    | none => return (time, none, rest)
  | [] => none

/-- Reads a moment. The date in it need not be in the calendar. -/
def read? (text : List Char) : Option (Moment × List Char) :=
  match date? text with
  | some (date, rest) =>
    match timeOfDate? rest with
    | some (time, offset?, rest) => some (.instant date time offset?, rest)
    | none => some (.dated date, rest)
  | none => (time? text).map fun (time, rest) => (.timed time, rest)

/-- Whether the date of a moment, if it has one, is in the calendar. -/
def isValid : Moment → Bool
  | .dated date => date.isValid
  | .timed _ => true
  | .instant date _ _ => date.isValid

end Moment

end ILGraft.Toml
