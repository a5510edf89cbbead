import GitPractice.Text.Case
import GitPractice.Text.Numeral
import GitPractice.Value.Json.Parse
import GitPractice.Value.Yaml.Cursor
import GitPractice.Value.Yaml.Look

/-!
# The values of YAML scalars

A text becomes a value by its tag. Where the tag was found by the look of the
text there is always a number to be read; where it was written out there need not
be one, and what happens then depends on the kind. Numbers may be grouped by
underscores, and written in base two, eight, sixteen or sixty.
-/

namespace GitPractice
namespace Yaml

/-- The text of code points, as far as it has characters. -/
def charsOf (points : List Nat) : List Char := points.map Text.charOfPoint

/-- Split at the colons. -/
def splitColons : List Char → List (List Char)
  | [] => [[]]
  | c :: cs =>
    if c = ':' then [] :: splitColons cs
    else
      match splitColons cs with
      | part :: parts => (c :: part) :: parts
      | [] => [[c]]

/-- The value of a digit, of a decimal one in any script. -/
def digitIn? (base : Nat) (c : Char) : Option Nat :=
  ((Json.hexValue? c).or (Text.decimalValue? c)).filter (· < base)

/-- The letter that may stand behind a zero before digits of the base. -/
def baseLetter : Nat → Char
  | 2 => 'b'
  | 8 => 'o'
  | _ => 'x'

/-- The digits behind a zero and the letter of their base, if these stand there. -/
def dropBaseMark (base : Nat) (cs : List Char) : List Char :=
  match cs with
  | '0' :: letter :: rest =>
    if base ≠ 10 && (letter = baseLetter base || letter.toLower = baseLetter base) then rest else cs
  | cs => cs

/-- Read an integer in a base, with a sign and blanks around it. In base ten it must not be too long. -/
def integerIn? (base : Nat) (cs : List Char) : Option Int :=
  let stripped := Text.stripChars cs
  let digits := dropBaseMark base (Look.dropSign stripped)
  if digits.isEmpty || (base = 10 && Text.maxIntegerDigits < digits.length) then none
  else
    (digits.foldlM (fun n c => (digitIn? base c).map (base * n + ·)) 0).map fun n =>
      if stripped.head? = some '-' then -(n : Int) else n

/-- The number of parts in base sixty, the last one least. -/
def joinSixtieths (parts : List Int) : Int := parts.foldl (fun n part => 60 * n + part) 0

/-- Read an integer behind its sign. -/
def readMagnitude (cs : List Char) : Reading Int :=
  let read (base : Nat) (cs : List Char) : Reading Int :=
    match integerIn? base cs with
    | some n => .ok n
    | none => malformed
  match cs with
  | [] => .error (.fault .emptyNumber)
  | ['0'] => .ok 0
  | '0' :: 'b' :: rest => read 2 rest
  | '0' :: 'x' :: rest => read 16 rest
  | '0' :: _ => read 8 cs
  | cs => if cs.contains ':' then joinSixtieths <$> (splitColons cs).mapM (read 10) else read 10 cs

def dropGrouping (cs : List Char) : List Char := cs.filter (· ≠ '_')

def readInteger (cs : List Char) : Reading Int :=
  let cs := dropGrouping cs
  (readMagnitude (Look.dropSign cs)).map fun n => if cs.head? = some '-' then -n else n

/-! ## Numbers with a point -/

/-- Decimal digits of any script at the front, with their value and number. -/
def leadingDigits (cs : List Char) : Nat × Nat × List Char :=
  let run := cs.takeWhile fun c => (Text.decimalValue? c).isSome
  (run.foldl (fun n c => 10 * n + (Text.decimalValue? c).getD 0) 0, run.length, cs.drop run.length)

/-- An exponent up to the end, or nothing. -/
def readExponent? (cs : List Char) : Option Int :=
  match cs with
  | [] => some 0
  | 'e' :: rest =>
    match leadingDigits (Look.dropSign rest) with
    | (n, count, []) => if count = 0 then none else some (if rest.head? = some '-' then -(n : Int) else n)
    | _ => none
  | _ => none

/-- Read a decimal number behind its sign; digits are needed on one side of the point. -/
def readUnsigned? (negative : Bool) (cs : List Char) : Option Real64 :=
  let (whole, wholeCount, rest) := leadingDigits cs
  let (places, placeCount, rest) :=
    match rest with
    | '.' :: rest => leadingDigits rest
    | rest => (0, 0, rest)
  if wholeCount + placeCount = 0 then none
  else
    (readExponent? rest).map fun exponent =>
      .ofDecimal negative (whole * Text.tenTo placeCount + places) (exponent - placeCount)

/-- Read a number in small letters, with blanks around it. -/
def realOf? (cs : List Char) : Option Real64 :=
  let cs := Text.stripChars cs
  let negative := cs.head? = some '-'
  let unsigned := Look.dropSign cs
  let word := String.ofList unsigned
  if word = "inf" || word = "infinity" then some (.infinity negative)
  else if word = "nan" then some (.nanOf 1)
  else readUnsigned? negative unsigned

/-- The number of parts in base sixty, with the rounding of every step. The parts come last one first. A
power of sixty that is too large for a number with a fraction is a fault. -/
def joinRealSixtieths (base : Int) (sum : Float) : List Real64 → Reading Real64
  | [] =>
    let x : Real64 := ⟨sum.toBits⟩
    .ok (if x.isNaN then .nanOf 1 else x)
  | part :: parts =>
    let factor := Real64.ofInt base
    if factor.isInfinite then .error (.fault .integerBeyondReals)
    else joinRealSixtieths (60 * base) (sum + Float.ofBits part.bits * Float.ofBits factor.bits) parts

def negate (x : Real64) : Real64 :=
  if x.isNaN then x else ⟨(Float.neg (Float.ofBits x.bits)).toBits⟩

/-- Read a number with a fraction. What is written as the word for no number is always the same one, and
others that come out as none differ from it. -/
def readReal (cs : List Char) : Reading Real64 :=
  let cs := dropGrouping (Text.lower (String.ofList cs)).toList
  let unsigned := Look.dropSign cs
  let read (cs : List Char) : Reading Real64 :=
    match realOf? cs with
    | some x => .ok x
    | none => malformed
  let magnitude : Reading Real64 :=
    if unsigned = ".inf".toList then .ok (.infinity false)
    else if unsigned = ".nan".toList then .ok .nan
    else if unsigned.contains ':' then do
      let parts ← (splitColons unsigned).mapM read
      joinRealSixtieths 1 0 parts.reverse
    else read unsigned
  if cs.isEmpty then .error (.fault .emptyNumber)
  else magnitude.map fun x => if cs.head? = some '-' then negate x else x

/-! ## Other scalars -/

def readTruth (cs : List Char) : Reading Bool :=
  let word := Text.lower (String.ofList cs)
  if word = "yes" || word = "true" || word = "on" then .ok true
  else if word = "no" || word = "false" || word = "off" then .ok false
  else .error (.fault (.unknownTruth word))

/-- Read a day or a moment. It must look like one, and be real. -/
def readMoment (cs : List Char) : Reading Scalar :=
  match Look.readMoment? (Look.dropLastBreak cs) with
  | none => .error (.fault .noMoment)
  | some m =>
    match Date.ofFields? m.year m.month m.day, m.time with
    | none, _ => malformed
    | some date, none => .ok (.date date)
    | some date, some (hour, minute, second, digits) =>
      match TimeOfDay.ofFields? hour minute second (microsOfFraction digits) with
      | none => malformed
      | some time =>
        if m.offset.all Moment.isOffset then .ok (.moment { date, time, offset := m.offset }) else malformed

/-- The six bits that a character of base 64 stands for. -/
def sixBits? (n : Nat) : Option Nat :=
  if 65 ≤ n ∧ n ≤ 90 then some (n - 65)
  else if 97 ≤ n ∧ n ≤ 122 then some (n - 71)
  else if 48 ≤ n ∧ n ≤ 57 then some (n + 4)
  else if n = 43 then some 62
  else if n = 47 then some 63
  else none

/-- Read bytes in base 64. `place` is how many characters of the present group have been read, `left` the
bits of the last one that are still to be used, and `padding` the number of equals signs behind it.
Other characters do not count; a group of one character is wrong, and so is one that is not filled up. -/
def readBytes (place left padding : Nat) : List Nat → Option (List UInt8)
  | [] => if place = 0 then some [] else none
  | n :: rest =>
    if n = 61 then
      if 2 ≤ place && 4 ≤ place + padding + 1 then some []
      else readBytes place left (if 2 ≤ place then padding + 1 else padding) rest
    else
      match sixBits? n with
      | none => readBytes place left padding rest
      | some bits =>
        let byte (high low : Nat) : UInt8 := UInt8.ofNat (high + low)
        if place = 0 then readBytes 1 bits 0 rest
        else if place = 1 then (readBytes 2 (bits % 16) 0 rest).map (byte (4 * left) (bits / 16) :: ·)
        else if place = 2 then (readBytes 3 (bits % 4) 0 rest).map (byte (16 * left) (bits / 4) :: ·)
        else (readBytes 0 0 0 rest).map (byte (64 * left) bits :: ·)

def readBinary (points : List Nat) : Reading (List UInt8) :=
  if points.any (127 < ·) then malformed
  else
    match readBytes 0 0 0 points with
    | some raw => .ok raw
    | none => malformed

/-- The value of a text under a tag for scalars. -/
def scalarOf (tag : Tag) (points : List Nat) : Reading Scalar :=
  match tag with
  | .null => .ok .null
  | .bool => .bool <$> readTruth (charsOf points)
  | .int => .int <$> readInteger (charsOf points)
  | .real => .real <$> readReal (charsOf points)
  | .moment => readMoment (charsOf points)
  | .binary => .bytes <$> readBinary points
  | .text => .ok (Json.textOfPoints points)
  | _ => malformed

end Yaml
end GitPractice
