import GitPractice.Text.Digits

/-!
# Days and times of day

A day is a real one of the proleptic Gregorian calendar in the years 1 to 9999,
and a time of day is exact to the microsecond. Both are written in the ISO form.
A moment is a time on a day, possibly with its distance from universal time; it
is written with a space where the strict ISO form has a letter.
-/

namespace GitPractice

/-- Every fourth year is a leap year, save the centuries not divisible by 400. -/
def isLeapYear (year : Nat) : Bool :=
  year % 4 == 0 && (year % 100 != 0 || year % 400 == 0)

def daysInMonth (year month : Nat) : Nat :=
  match month with
  | 2 => if isLeapYear year then 29 else 28
  | 4 | 6 | 9 | 11 => 30
  | _ => 31

structure Date where
  year : Nat
  month : Nat
  day : Nat
  isReal : 1 ≤ year ∧ year ≤ 9999 ∧ 1 ≤ month ∧ month ≤ 12 ∧ 1 ≤ day ∧ day ≤ daysInMonth year month
deriving DecidableEq

namespace Date

/-- The day with this date, if there is one. -/
def ofFields? (year month day : Nat) : Option Date :=
  if h : 1 ≤ year ∧ year ≤ 9999 ∧ 1 ≤ month ∧ month ≤ 12 ∧ 1 ≤ day ∧ day ≤ daysInMonth year month then
    some ⟨year, month, day, h⟩
  else none

/-- Days from 1 January of year 1 to 1 January of `year`. -/
def daysBeforeYear (year : Nat) : Nat :=
  let y := year - 1
  365 * y + y / 4 - y / 100 + y / 400

/-- Days of `year` before the first of `month`. -/
def daysBeforeMonth (year : Nat) : Nat → Nat
  | 0 => 0
  | 1 => 0
  | month + 1 => daysBeforeMonth year month + daysInMonth year month

/-- Days since 1 January of year 1, which was a Monday. -/
def dayNumber (d : Date) : Nat :=
  daysBeforeYear d.year + daysBeforeMonth d.year d.month + (d.day - 1)

/-- The next day, if there is one. -/
def after? (d : Date) : Option Date :=
  (ofFields? d.year d.month (d.day + 1)).or
    ((ofFields? d.year (d.month + 1) 1).or (ofFields? (d.year + 1) 1 1))

/-- The day before, if there is one. -/
def before? (d : Date) : Option Date :=
  if 1 < d.day then ofFields? d.year d.month (d.day - 1)
  else if 1 < d.month then ofFields? d.year (d.month - 1) (daysInMonth d.year (d.month - 1))
  else ofFields? (d.year - 1) 12 31

def weekdayName (d : Date) : String :=
  match d.dayNumber % 7 with
  | 0 => "Mon" | 1 => "Tue" | 2 => "Wed" | 3 => "Thu" | 4 => "Fri" | 5 => "Sat" | _ => "Sun"

def monthName (d : Date) : String :=
  match d.month with
  | 1 => "Jan" | 2 => "Feb" | 3 => "Mar" | 4 => "Apr" | 5 => "May" | 6 => "Jun"
  | 7 => "Jul" | 8 => "Aug" | 9 => "Sep" | 10 => "Oct" | 11 => "Nov" | _ => "Dec"

def isoText (d : Date) : String :=
  Text.padded 4 d.year ++ "-" ++ Text.padded 2 d.month ++ "-" ++ Text.padded 2 d.day

end Date

structure TimeOfDay where
  hour : Nat
  minute : Nat
  second : Nat
  micro : Nat
  isReal : hour < 24 ∧ minute < 60 ∧ second < 60 ∧ micro < 1000000
deriving DecidableEq

namespace TimeOfDay

/-- The time with these fields, if there is one. -/
def ofFields? (hour minute second micro : Nat) : Option TimeOfDay :=
  if h : hour < 24 ∧ minute < 60 ∧ second < 60 ∧ micro < 1000000 then some ⟨hour, minute, second, micro, h⟩
  else none

def clockText (t : TimeOfDay) : String :=
  Text.padded 2 t.hour ++ ":" ++ Text.padded 2 t.minute ++ ":" ++ Text.padded 2 t.second

/-- The ISO form; a fraction is written only when there is one, and then in full. -/
def isoText (t : TimeOfDay) : String :=
  t.clockText ++ (if t.micro = 0 then "" else "." ++ Text.padded 6 t.micro)

end TimeOfDay

/-- The microseconds that the digits behind the point stand for. Only six of them count. -/
def microsOfFraction (digits : List Char) : Nat :=
  let (value, count, _) := Text.readDigits 0 0 (digits.take 6)
  value * Text.tenTo (6 - count)

structure Moment where
  date : Date
  time : TimeOfDay
  /-- How many minutes its clock is ahead of universal time, if that is known. -/
  offset : Option Int := none
deriving DecidableEq

namespace Moment

/-- The same moment in universal time, if its distance from that is known. -/
def universal (m : Moment) : Moment :=
  match m.offset with
  | none => m
  | some offset =>
    let minutes : Int := 60 * m.time.hour + m.time.minute - offset
    let date := if minutes < 0 then m.date.before? else if 1440 ≤ minutes then m.date.after? else some m.date
    let inDay := (minutes % 1440).toNat
    match date, TimeOfDay.ofFields? (inDay / 60) (inDay % 60) m.time.second m.time.micro with
    | some date, some time => { date, time, offset := some 0 }
    | _, _ => m

/-- Clocks differ from universal time by less than a day. -/
def isOffset (minutes : Int) : Bool := minutes.natAbs < 1440

def offsetText (minutes : Int) : String :=
  (if minutes < 0 then "-" else "+") ++ Text.padded 2 (minutes.natAbs / 60) ++ ":" ++
    Text.padded 2 (minutes.natAbs % 60)

def text (m : Moment) : String :=
  m.date.isoText ++ " " ++ m.time.isoText ++ (m.offset.map offsetText).getD ""

end Moment
end GitPractice
