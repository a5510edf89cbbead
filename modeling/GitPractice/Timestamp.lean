import GitPractice.Calendar

/-!
# Timestamps

A point of local time to the microsecond, without a zone. Its day is a real one,
so every `Timestamp` has a weekday and a text of fixed shape. Two texts are written:
the ISO form used in records, and the form of the commit log.
-/

namespace GitPractice

structure Timestamp where
  date : Date
  time : TimeOfDay
deriving DecidableEq

namespace Timestamp

/-- The timestamp with the given fields, if there is one. -/
def ofFields? (year month day hour minute second micro : Nat) : Option Timestamp := do
  let date ← Date.ofFields? year month day
  let time ← TimeOfDay.ofFields? hour minute second micro
  return ⟨date, time⟩

/-- Morning of 15 January 2024, the time of a session that is given no clock. -/
def sample : Timestamp :=
  ⟨⟨2024, 1, 15, by decide⟩, ⟨10, 30, 0, 0, by decide⟩⟩

instance : Inhabited Timestamp := ⟨sample⟩

/-- The ISO form: the day, a letter, and the time. -/
def isoText (t : Timestamp) : String := t.date.isoText ++ "T" ++ t.time.isoText

/-- The form of the commit log, such as `Mon Jan 15 10:30:00 2024`. -/
def logText (t : Timestamp) : String :=
  t.date.weekdayName ++ " " ++ t.date.monthName ++ " " ++ Text.padded 2 t.date.day ++ " " ++
    t.time.clockText ++ " " ++ toString t.date.year

/-- Read `mark` and then exactly `width` digits. -/
def readField? (mark : Char) (width : Nat) : List Char → Option (Nat × List Char)
  | c :: cs => if c = mark then Text.readFixed? width 0 cs else none
  | [] => none

/-- The microseconds that a fraction of one to six digits stands for. -/
def readFraction? : List Char → Option Nat
  | [] => some 0
  | '.' :: cs =>
    match Text.readDigits 0 0 cs with
    | (value, count, []) => if 1 ≤ count ∧ count ≤ 6 then some (value * Text.tenTo (6 - count)) else none
    | _ => none
  | _ => none

/-- Read the ISO form; the fraction may be cut short of six digits. -/
def ofIso? (text : String) : Option Timestamp := do
  let (year, rest) ← Text.readFixed? 4 0 text.toList
  let (month, rest) ← readField? '-' 2 rest
  let (day, rest) ← readField? '-' 2 rest
  let (hour, rest) ← readField? 'T' 2 rest
  let (minute, rest) ← readField? ':' 2 rest
  let (second, rest) ← readField? ':' 2 rest
  let micro ← readFraction? rest
  ofFields? year month day hour minute second micro

example : sample.isoText = "2024-01-15T10:30:00" := by decide +kernel
example : sample.logText = "Mon Jan 15 10:30:00 2024" := by decide +kernel
example : ofIso? "2024-01-15T10:30:00" = some sample := by decide +kernel
example : ofIso? "2023-02-29T10:30:00" = none := by decide +kernel

end Timestamp
end GitPractice
