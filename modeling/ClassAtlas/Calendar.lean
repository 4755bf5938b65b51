/-!
Days of the Gregorian calendar and times of day, with an optional offset from universal time in
minutes. Two times with offsets are the same when they name the same instant.
-/
namespace ClassAtlas

structure Date where
  year : Nat
  month : Nat
  day : Nat
  deriving DecidableEq, Repr

structure DateTime where
  date : Date
  hour : Nat
  minute : Nat
  second : Nat
  microsecond : Nat
  offset : Option Int
  deriving DecidableEq, Repr

namespace Calendar

def isLeap (year : Nat) : Bool := year % 4 == 0 && (year % 100 != 0 || year % 400 == 0)

def daysIn (year month : Nat) : Nat :=
  if month = 2 then (if isLeap year then 29 else 28)
  else if month = 4 ∨ month = 6 ∨ month = 9 ∨ month = 11 then 30
  else 31

/-- The first unit that is out of range, from the year down. -/
inductive RangeError where
  | year (given : Nat)
  | month
  | day
  | hour
  | minute
  | second
  | offset (minutes : Int)
  deriving DecidableEq, Repr

def date? (year month day : Nat) : Except RangeError Date :=
  if year < 1 ∨ 9999 < year then .error (.year year)
  else if month < 1 ∨ 12 < month then .error .month
  else if day < 1 ∨ daysIn year month < day then .error .day
  else .ok ⟨year, month, day⟩

def minutesPerDay : Nat := 1440

/-- An offset is less than a day; it is checked before the date. -/
def dateTime? (year month day hour minute second microsecond : Nat) (offset : Option Int) :
    Except RangeError DateTime := do
  if let some minutes := offset then
    if minutesPerDay ≤ minutes.natAbs then throw (.offset minutes)
  let date ← date? year month day
  if 23 < hour then throw .hour
  if 59 < minute then throw .minute
  if 59 < second then throw .second
  return ⟨date, hour, minute, second, microsecond, offset⟩

def padded (width n : Nat) : String :=
  let digits := toString n
  "".pushn '0' (width - digits.length) ++ digits

/-- Days since the beginning of the calendar. -/
def dayNumber (d : Date) : Nat :=
  let years := d.year - 1
  let months := (List.range (d.month - 1)).map fun m => daysIn d.year (m + 1)
  365 * years + years / 4 - years / 100 + years / 400 + months.foldr Nat.add 0 + d.day

/-- A span of minutes as whole days and the seconds left over. -/
def spanText (minutes : Int) : String :=
  let days := minutes.fdiv minutesPerDay
  let seconds := 60 * minutes.fmod minutesPerDay
  let daysText := if days = 0 then [] else [s!"days={days}"]
  let secondsText := if seconds = 0 then [] else [s!"seconds={seconds}"]
  let parts := daysText ++ secondsText
  let inner := if parts.isEmpty then "0" else ", ".intercalate parts
  s!"datetime.timedelta({inner})"

def RangeError.message : RangeError → String
  | .year given => s!"year {given} is out of range"
  | .month => "month must be in 1..12"
  | .day => "day is out of range for month"
  | .hour => "hour must be in 0..23"
  | .minute => "minute must be in 0..59"
  | .second => "second must be in 0..59"
  | .offset minutes =>
      "offset must be a timedelta strictly between -timedelta(hours=24) and timedelta(hours=24), "
        ++ s!"not {spanText minutes}."

end Calendar

open Calendar

namespace Date

def iso (d : Date) : String := s!"{padded 4 d.year}-{padded 2 d.month}-{padded 2 d.day}"

def shown (d : Date) : String := s!"datetime.date({d.year}, {d.month}, {d.day})"

end Date

namespace DateTime

def offsetText (minutes : Int) : String :=
  let sign := if minutes < 0 then "-" else "+"
  s!"{sign}{padded 2 (minutes.natAbs / 60)}:{padded 2 (minutes.natAbs % 60)}"

/-- The fraction is left out when it is zero. -/
def iso (t : DateTime) : String :=
  let time := s!"{padded 2 t.hour}:{padded 2 t.minute}:{padded 2 t.second}"
  let fraction := if t.microsecond = 0 then "" else "." ++ padded 6 t.microsecond
  let offset := (t.offset.map offsetText).getD ""
  s!"{t.date.iso}T{time}{fraction}{offset}"

def zoneText (minutes : Int) : String :=
  if minutes = 0 then "datetime.timezone.utc" else s!"datetime.timezone({spanText minutes})"

/-- Trailing zero seconds are left out. -/
def shown (t : DateTime) : String :=
  let fields := [t.date.year, t.date.month, t.date.day, t.hour, t.minute]
  let fields :=
    if t.microsecond ≠ 0 then fields ++ [t.second, t.microsecond]
    else if t.second ≠ 0 then fields ++ [t.second]
    else fields
  let zone := match t.offset with
    | some minutes => [s!"tzinfo={zoneText minutes}"]
    | none => []
  let inner := ", ".intercalate (fields.map toString ++ zone)
  s!"datetime.datetime({inner})"

/-- Microseconds since the beginning of the calendar, on the local clock less the offset. -/
def instant (t : DateTime) : Int :=
  let minutes : Int := (dayNumber t.date * 24 + t.hour) * 60 + t.minute
  ((minutes - t.offset.getD 0) * 60 + t.second) * 1000000 + t.microsecond

def same (s t : DateTime) : Bool :=
  s.offset.isSome == t.offset.isSome && s.instant == t.instant

end DateTime
end ClassAtlas
