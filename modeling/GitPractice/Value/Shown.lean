import GitPractice.Text.Blank
import GitPractice.Text.Half
import GitPractice.Value.Basic

/-!
# Values inside text

Where a value stands in a sentence or a prompt, a text is put as it is, and
anything else in the notation of records and lists; a text inside those is
quoted. Days and times are put in their ISO form, and inside a list as what they
are made of.
-/

namespace GitPractice
namespace Scalar

/-- A code point in quotes; the half of a surrogate pair is shown by its number. -/
def quotedPoint (mark : Char) (n : Nat) : List Char :=
  if Text.isHalf n then Text.escapedHalf n else Text.quotedChar mark (Char.ofNat n)

def quotedPoints (points : List Nat) : List Char :=
  let mark := Text.quoteMark (points.map Char.ofNat)
  mark :: points.flatMap (quotedPoint mark) ++ [mark]

def quotedByte (mark : Char) (b : UInt8) : List Char :=
  let n := b.toNat
  if n = mark.toNat ∨ n = 0x5c then ['\\', Char.ofNat n]
  else if n = 10 then ['\\', 'n']
  else if n = 13 then ['\\', 'r']
  else if n = 9 then ['\\', 't']
  else if 32 ≤ n ∧ n < 127 then [Char.ofNat n]
  else '\\' :: 'x' :: Text.hexDigits 2 n

def quotedBytes (raw : List UInt8) : List Char :=
  let mark := Text.quoteMark (raw.map fun b => Char.ofNat b.toNat)
  'b' :: mark :: raw.flatMap (quotedByte mark) ++ [mark]

/-- Numbers with commas between them. -/
def listed (numbers : List Nat) : String := Text.join ", " (numbers.map toString)

def dateFields (d : Date) : List Nat := [d.year, d.month, d.day]

/-- Hour and minute, and what behind them is not zero. -/
def timeFields (t : TimeOfDay) : List Nat :=
  [t.hour, t.minute] ++
    (if t.micro ≠ 0 then [t.second, t.micro] else if t.second ≠ 0 then [t.second] else [])

/-- A distance from universal time, as days and seconds of which only the days are negative. -/
def zoneNotated (minutes : Int) : String :=
  if minutes = 0 then "datetime.timezone.utc"
  else
    let days : Int := if minutes < 0 then -1 else 0
    let parts := (if days = 0 then [] else ["days=" ++ toString days]) ++
      ["seconds=" ++ toString ((minutes - days * 1440) * 60)]
    "datetime.timezone(datetime.timedelta(" ++ Text.join ", " parts ++ "))"

def momentNotated (m : Moment) : String :=
  "datetime.datetime(" ++ listed (dateFields m.date ++ timeFields m.time) ++
    ((m.offset.map fun minutes => ", tzinfo=" ++ zoneNotated minutes).getD "") ++ ")"

/-- The notation of a scalar. -/
def notated : Scalar → List Char
  | null => "None".toList
  | bool true => "True".toList
  | bool false => "False".toList
  | int n => (toString n).toList
  | real x => (x.text { infinity := "inf", nan := "nan" }).toList
  | text s => Text.quotedChars s.toList
  | unpaired points => quotedPoints points
  | bytes raw => quotedBytes raw
  | date d => ("datetime.date(" ++ listed (dateFields d) ++ ")").toList
  | time t => ("datetime.time(" ++ listed (timeFields t) ++ ")").toList
  | moment m => (momentNotated m).toList

/-- The scalar as it stands in a text. A half of a surrogate pair has no form of its own there, so the
replacement character stands for it. -/
def shown : Scalar → String
  | text s => s
  | unpaired points => String.ofList (points.map Text.charOfPoint)
  | date d => d.isoText
  | time t => t.isoText
  | moment m => m.text
  | a => String.ofList a.notated

def kindName : Scalar → String
  | null => "NoneType"
  | bool _ => "bool"
  | int _ => "int"
  | real _ => "float"
  | text _ => "str"
  | unpaired _ => "str"
  | bytes _ => "bytes"
  | date _ => "datetime.date"
  | time _ => "datetime.time"
  | moment _ => "datetime.datetime"

/-- Whether the scalar counts as given: not null, false, zero or empty. -/
def isTruthy : Scalar → Bool
  | null => false
  | bool b => b
  | int n => n ≠ 0
  | real x => !x.isZero
  | text s => s ≠ ""
  | unpaired points => !points.isEmpty
  | bytes raw => !raw.isEmpty
  | date _ => true
  | time _ => true
  | moment _ => true

end Scalar

namespace Value

/-- Notations with commas between them. -/
def separated : List (List Char) → List Char
  | [] => []
  | [cs] => cs
  | cs :: ds :: rest => cs ++ ',' :: ' ' :: separated (ds :: rest)

mutual

/-- The notation of a value. -/
def notated : Value → List Char
  | .atom a => a.notated
  | .list items => '[' :: notatedItems items ++ [']']
  | .pair first second => '(' :: notated first ++ ',' :: ' ' :: notated second ++ [')']
  | .set [] => "set()".toList
  | .set members => '\x7b' :: separated (members.map Scalar.notated) ++ ['\x7d']
  | .record fields => '\x7b' :: notatedFields fields ++ ['\x7d']
  | .shared _ => []
  | .recurrence true => ['\x7b', '.', '.', '.', '\x7d']
  | .recurrence false => ['[', '.', '.', '.', ']']

def notatedItems : List Value → List Char
  | [] => []
  | [v] => notated v
  | v :: w :: rest => notated v ++ ',' :: ' ' :: notatedItems (w :: rest)

def notatedFields : List (Scalar × Value) → List Char
  | [] => []
  | [(k, v)] => k.notated ++ ':' :: ' ' :: notated v
  | (k, v) :: f :: rest => k.notated ++ ':' :: ' ' :: notated v ++ ',' :: ' ' :: notatedFields (f :: rest)

end

/-- The value as it stands in a text. -/
def shown : Value → String
  | .atom a => a.shown
  | v => String.ofList v.notated

mutual

/-- Whether there is an integer in the value that has too many digits to be written out. -/
def hasTooLong : Value → Bool
  | .atom a => a.isTooLong
  | .list items => hasTooLongItem items
  | .pair first second => hasTooLong first || hasTooLong second
  | .set members => members.any Scalar.isTooLong
  | .record fields => hasTooLongField fields
  | .shared _ => false
  | .recurrence _ => false

def hasTooLongItem : List Value → Bool
  | [] => false
  | v :: rest => hasTooLong v || hasTooLongItem rest

def hasTooLongField : List (Scalar × Value) → Bool
  | [] => false
  | (k, v) :: rest => k.isTooLong || hasTooLong v || hasTooLongField rest

end

/-- The code points of the value as it stands in a text, a half of a surrogate pair among them. -/
def shownPoints : Value → List Nat
  | .atom (.unpaired points) => points
  | v => v.shown.toList.map Char.toNat

/-- The word for the kind of a value. -/
def kindName : Value → String
  | .atom a => a.kindName
  | .list _ => "list"
  | .pair _ _ => "tuple"
  | .set _ => "set"
  | .record _ => "dict"
  | .shared _ => "list"
  | .recurrence isRecord => if isRecord then "dict" else "list"

/-- Whether the value counts as given: not null, false, zero or empty. -/
def isTruthy : Value → Bool
  | .atom a => a.isTruthy
  | .list items => !items.isEmpty
  | .set members => !members.isEmpty
  | .record fields => !fields.isEmpty
  | _ => true

end Value
end GitPractice
