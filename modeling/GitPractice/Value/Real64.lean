import GitPractice.Text.Digits

/-!
# Binary64 numbers in decimal

A finite number is `m * 2 ^ q` with `m` below `2 ^ 53`, and it stands for all
the reals that round to it. Reading takes the nearest number, and of two equally
near ones the even. Writing takes the fewest digits that read back, and of these
the ones nearest to the number itself. All of it is exact arithmetic on natural
numbers, so both directions can be computed and compared without rounding.
-/

namespace GitPractice

/-- A binary64 number by its bits, so that two are equal when they are the same
number written the same way (`-0.0` is not `0.0`). -/
structure Real64 where
  bits : UInt64
deriving DecidableEq, Inhabited

namespace Real64

/-- The power `2 ^ n`. -/
def twoTo (n : Nat) : Nat := Nat.pow 2 n

def signBit (x : Real64) : Bool := x.bits.toNat / twoTo 63 % 2 = 1

def exponentField (x : Real64) : Nat := x.bits.toNat / twoTo 52 % twoTo 11

def fractionField (x : Real64) : Nat := x.bits.toNat % twoTo 52

def isNaN (x : Real64) : Bool := x.exponentField = 2047 && x.fractionField ≠ 0

def isInfinite (x : Real64) : Bool := x.exponentField = 2047 && x.fractionField = 0

/-- Whether it is zero of either sign. -/
def isZero (x : Real64) : Bool := x.exponentField = 0 && x.fractionField = 0

/-- The `m` of `m * 2 ^ q`. -/
def significand (x : Real64) : Nat :=
  if x.exponentField = 0 then x.fractionField else x.fractionField + twoTo 52

/-- The `q` of `m * 2 ^ q`. -/
def scale (x : Real64) : Int :=
  if x.exponentField = 0 then -1074 else (x.exponentField : Int) - 1075

def ofFields (negative : Bool) (exponent fraction : Nat) : Real64 :=
  ⟨UInt64.ofNat ((if negative then twoTo 63 else 0) + exponent * twoTo 52 + fraction)⟩

def infinity (negative : Bool) : Real64 := ofFields negative 2047 0

/-- Not a number, one of many that differ in their bits alone. -/
def nanOf (n : Nat) : Real64 := ofFields false 2047 (twoTo 51 + n)

/-- The usual one that is not a number. -/
def nan : Real64 := nanOf 0

def zero (negative : Bool) : Real64 := ofFields negative 0 0

/-- The quotient `num / den` to the nearest natural number, a half to the even one. -/
def roundDiv (num den : Nat) : Nat :=
  let low := num / den
  let twice := 2 * (num % den)
  if twice < den then low
  else if den < twice then low + 1
  else if low % 2 = 0 then low else low + 1

/-- The value `num / den * 2 ^ k` as a fraction. -/
def scaled (num den : Nat) (k : Int) : Nat × Nat :=
  if 0 ≤ k then (num * twoTo k.toNat, den) else (num, den * twoTo (-k).toNat)

/-- The number `m * 2 ^ q`, with `m ≤ 2 ^ 53` as the rounding left it. -/
def assemble (negative : Bool) (m : Nat) (q : Int) : Real64 :=
  let (m, q) := if m = twoTo 53 then (twoTo 52, q + 1) else (m, q)
  if 971 < q then infinity negative
  else if m < twoTo 52 then ofFields negative 0 m
  else ofFields negative (q + 1075).toNat (m - twoTo 52)

/-- The number nearest to `num / den`. -/
def ofRatio (negative : Bool) (num den : Nat) : Real64 :=
  if num = 0 then zero negative
  else
    let k : Int := (Nat.log2 num : Int) - Nat.log2 den
    let (a, b) := scaled num den (-k)
    let q := max (-1074) (if b ≤ a then k - 52 else k - 53)
    let (a, b) := scaled num den (-q)
    assemble negative (roundDiv a b) q

/-- The number nearest to `digits * 10 ^ exponent`. Exponents out of all reach are settled without
computing the power. -/
def ofDecimal (negative : Bool) (digits : Nat) (exponent : Int) : Real64 :=
  let size : Int := (Nat.log2 digits : Int) / 3 + 1
  if digits = 0 ∨ exponent + size < -400 then zero negative
  else if 400 < exponent then infinity negative
  else if 0 ≤ exponent then ofRatio negative (digits * Text.tenTo exponent.toNat) 1
  else ofRatio negative digits (Text.tenTo (-exponent).toNat)

/-- The nearest number to an integer. -/
def ofInt (n : Int) : Real64 := ofRatio (n < 0) n.natAbs 1

/-- The magnitude as a fraction. -/
def ratio (x : Real64) : Nat × Nat := scaled x.significand 1 x.scale

/-- The integer that a finite number without a fraction is. -/
def integer? (x : Real64) : Option Int :=
  if x.exponentField = 2047 then none
  else
    let (num, den) := x.ratio
    if num % den = 0 then some (if x.signBit then -((num / den : Nat) : Int) else (num / den : Nat)) else none

/-- Whether `num / den` lies among the reals that round to the number `m * 2 ^ q`. Below a power of
two the gap is half as wide; the ends belong to it when `m` is even. -/
def roundsTo (x : Real64) (num den : Nat) : Bool :=
  let m := x.significand
  let narrow := m = twoTo 52 && 1 < x.exponentField
  let (lowNum, lowDen) :=
    if narrow then scaled (4 * m - 1) 4 x.scale else scaled (2 * m - 1) 2 x.scale
  let (highNum, highDen) := scaled (2 * m + 1) 2 x.scale
  let low := lowNum * den
  let high := highNum * den
  if m % 2 = 0 then low ≤ num * lowDen && num * highDen ≤ high
  else low < num * lowDen && num * highDen < high

/-- The value `digits * 10 ^ exponent` as a fraction. -/
def decimalRatio (digits : Nat) (exponent : Int) : Nat × Nat :=
  if 0 ≤ exponent then (digits * Text.tenTo exponent.toNat, 1) else (digits, Text.tenTo (-exponent).toNat)

/-- The neighbours of the number on the grid of multiples of `10 ^ exponent` that read back, the nearer
one first. -/
def gridPoints (x : Real64) (exponent : Int) : List Nat :=
  let (num, den) := x.ratio
  let (a, b) := if 0 ≤ exponent then (num, den * Text.tenTo exponent.toNat)
    else (num * Text.tenTo (-exponent).toNat, den)
  let low := a / b
  let twice := 2 * (a % b)
  let order :=
    if twice < b ∨ (twice = b ∧ low % 2 = 0) then [low, low + 1] else [low + 1, low]
  order.filter fun d =>
    let (n, m) := decimalRatio d exponent
    d ≠ 0 && x.roundsTo n m

/-- Drop the zeros at the end of a decimal number. -/
def trimZeros : Nat → Nat → Int → Nat × Int
  | 0, digits, exponent => (digits, exponent)
  | fuel + 1, digits, exponent =>
    if digits ≠ 0 ∧ digits % 10 = 0 then trimZeros fuel (digits / 10) (exponent + 1)
    else (digits, exponent)

/-- Try finer and finer grids; seventeen digits always read back. -/
def searchShortest (x : Real64) : Nat → Int → Nat × Int
  | 0, exponent => ((gridPoints x exponent).head?.getD 0, exponent)
  | more + 1, exponent =>
    match gridPoints x exponent with
    | d :: _ => (d, exponent)
    | [] => searchShortest x more (exponent - 1)

/-- The number of decimal digits of the integer part of a fraction, or minus the number of zeros behind
its point; found by going down from `start`. -/
def decimalMagnitude (num den : Nat) : Nat → Int → Int
  | 0, k => k
  | fuel + 1, k =>
    let (n, m) := decimalRatio 1 (k - 1)
    if n * den ≤ num * m then k else decimalMagnitude num den fuel (k - 1)

/-- The fewest digits that read back as the finite number `x`, other than zero, as
`digits * 10 ^ exponent`. -/
def shortest (x : Real64) : Nat × Int :=
  let (num, den) := x.ratio
  let estimate : Int := ((Nat.log2 num : Int) - Nat.log2 den) * 30103 / 100000 + 3
  let magnitude := decimalMagnitude num den 8 estimate
  let (digits, exponent) := searchShortest x 17 (magnitude - 1)
  trimZeros 20 digits exponent

/-- Digits with the point behind as many of them as `point` says. -/
def positional (digits : List Char) (point : Int) : List Char :=
  let count : Int := digits.length
  if point ≤ 0 then '0' :: '.' :: List.replicate (-point).toNat '0' ++ digits
  else if point < count then digits.take point.toNat ++ '.' :: digits.drop point.toNat
  else digits ++ List.replicate (point - count).toNat '0' ++ ['.', '0']

/-- One digit before the point, and an exponent of at least two places. -/
def scientific (digits : List Char) (exponent : Int) : List Char :=
  let mantissa := match digits with
    | [] => []
    | [d] => [d]
    | d :: rest => d :: '.' :: rest
  let power := (toString exponent.natAbs).toList
  mantissa ++ 'e' :: (if exponent < 0 then '-' else '+') ::
    (if power.length < 2 then '0' :: power else power)

/-- How the three numbers that are no numbers are spelled. -/
structure Spelling where
  infinity : String
  nan : String

/-- The text of a number: positional from `0.0001` to below `10 ^ 16`, and with an exponent elsewhere. A
number without a fraction keeps `.0`. -/
def text (spelling : Spelling) (x : Real64) : String :=
  let sign := if x.signBit then "-" else ""
  if x.isNaN then spelling.nan
  else if x.isInfinite then sign ++ spelling.infinity
  else if x.isZero then sign ++ "0.0"
  else
    let (n, exponent) := x.shortest
    let digits := (toString n).toList
    let point : Int := digits.length + exponent
    sign ++ String.ofList
      (if -4 < point ∧ point ≤ 16 then positional digits point else scientific digits (point - 1))

end Real64
end GitPractice
