import GitPractice.Text.Quoted
import GitPractice.Value.Real64

/-!
# Templates

A template is a text with places to fill in. A place begins with a percent sign
and names a field between round brackets; flags, a width and a precision follow,
and at last a letter that says how the field is shown. The percent sign itself is
written twice. A template that asks for what is not there, or for a text as a
number, cannot be filled in.
-/

namespace GitPractice

/-- What a field holds. -/
inductive FieldValue where
  | nothing
  /-- An empty list of arguments. -/
  | noArguments
  | number (n : Nat)
  | text (s : String)
deriving DecidableEq

namespace FieldValue

def shown : FieldValue → String
  | nothing => "None"
  | noArguments => "()"
  | number n => toString n
  | text s => s

/-- The value with quotes around a text. -/
def quoted : FieldValue → String
  | text s => Text.quoted s
  | v => v.shown

end FieldValue

/-- How a field is put into its place. -/
structure FieldForm where
  /-- Whether what is left of the width goes behind the field. -/
  left : Bool := false
  /-- Whether a number that is not negative has its sign. -/
  plus : Bool := false
  /-- Whether a blank stands for that sign. -/
  blank : Bool := false
  /-- Whether the base of a number is written, or its point in any case. -/
  full : Bool := false
  /-- Whether zeros fill what is left of the width of a number. -/
  zeros : Bool := false
  width : Nat := 0
  precision : Option Nat := none
deriving DecidableEq

namespace FieldForm

/-- The number rounded to `places + 1` digits, with its exponent of ten. -/
def rounded (places n : Nat) : Nat × Nat :=
  let exponent := (toString n).length - 1
  if exponent ≤ places then (n * Text.tenTo (places - exponent), exponent)
  else
    let m := Real64.roundDiv n (Text.tenTo (exponent - places))
    if m = Text.tenTo (places + 1) then (m / 10, exponent + 1) else (m, exponent)

/-- Digits with the point before the last `places` of them. -/
def pointed (full : Bool) (places : Nat) (digits : List Char) : List Char :=
  let whole := digits.take (digits.length - places)
  if places = 0 then if full then whole ++ ['.'] else whole
  else whole ++ '.' :: digits.drop (digits.length - places)

def fixed (full : Bool) (places n : Nat) : List Char :=
  pointed full places ((toString n).toList ++ List.replicate places '0')

/-- The exponent has a sign and at least two digits. -/
def exponentText (n : Nat) : List Char :=
  'e' :: '+' :: (if n < 10 then ['0'] else []) ++ (toString n).toList

def scientific (full : Bool) (places n : Nat) : List Char :=
  let (m, exponent) := rounded places n
  pointed full places (toString m).toList ++ exponentText exponent

/-- Drop the zeros at the end of a fraction, and a point with nothing behind it. -/
def withoutZeros (cs : List Char) : List Char :=
  if cs.contains '.' then
    match cs.reverse.dropWhile (· = '0') with
    | '.' :: rest => rest.reverse
    | rest => rest.reverse
  else cs

/-- As many digits as `precision` says, with an exponent if they do not reach the point. -/
def general (full : Bool) (precision n : Nat) : List Char :=
  let precision := max precision 1
  let (m, exponent) := rounded (precision - 1) n
  let trim (cs : List Char) : List Char := if full then cs else withoutZeros cs
  if exponent < precision then
    trim (pointed full (precision - 1 - exponent) (toString m).toList)
  else trim (pointed full (precision - 1) (toString m).toList) ++ exponentText exponent

/-- Fill the width with blanks. -/
def padded (f : FieldForm) (body : List Char) : List Char :=
  let blanks := List.replicate (f.width - body.length) ' '
  if f.left then body ++ blanks else blanks ++ body

/-- A number with its sign and base in front; zeros that fill the width come behind these. -/
def signed (f : FieldForm) (base digits : List Char) : List Char :=
  let front := (if f.plus then ['+'] else if f.blank then [' '] else []) ++ base
  if f.zeros && !f.left then
    front ++ List.replicate (f.width - front.length - digits.length) '0' ++ digits
  else f.padded (front ++ digits)

/-- A whole number, with as many digits as the precision asks for at least. -/
def whole (f : FieldForm) (base digits : List Char) : List Char :=
  f.signed (if f.full then base else [])
    (List.replicate (f.precision.getD 0 - digits.length) '0' ++ digits)

def cut (f : FieldForm) (s : String) : List Char :=
  match f.precision with
  | some n => s.toList.take n
  | none => s.toList

/-- A character outside of ASCII by its code point. -/
def asciiChar (c : Char) : List Char :=
  if c.toNat < 0x80 then [c]
  else if c.toNat < 0x100 then '\\' :: 'x' :: Text.hexDigits 2 c.toNat
  else if c.toNat < 0x10000 then '\\' :: 'u' :: Text.hexDigits 4 c.toNat
  else '\\' :: 'U' :: Text.hexDigits 8 c.toNat

def ascii (s : String) : String := String.ofList (s.toList.flatMap asciiChar)

/-- A field as the letter says; some letters want a number, and one a single character. -/
def render? (f : FieldForm) (letter : Char) (v : FieldValue) : Option (List Char) :=
  let places := f.precision.getD 6
  match letter, v with
  | 's', v => some (f.padded (f.cut v.shown))
  | 'r', v => some (f.padded (f.cut v.quoted))
  | 'a', v => some (f.padded (f.cut (ascii v.quoted)))
  | 'c', .text s => if s.length = 1 then some (f.padded s.toList) else none
  | 'c', .number n => some (f.padded [Char.ofNat n])
  | 'd', .number n => some (f.whole [] (toString n).toList)
  | 'i', .number n => some (f.whole [] (toString n).toList)
  | 'u', .number n => some (f.whole [] (toString n).toList)
  | 'o', .number n => some (f.whole ['0', 'o'] (Nat.toDigits 8 n))
  | 'x', .number n => some (f.whole ['0', 'x'] (Nat.toDigits 16 n))
  | 'X', .number n => some (f.whole ['0', 'X'] ((Nat.toDigits 16 n).map Char.toUpper))
  | 'f', .number n => some (f.signed [] (fixed f.full places n))
  | 'F', .number n => some (f.signed [] (fixed f.full places n))
  | 'e', .number n => some (f.signed [] (scientific f.full places n))
  | 'E', .number n => some (f.signed [] ((scientific f.full places n).map Char.toUpper))
  | 'g', .number n => some (f.signed [] (general f.full places n))
  | 'G', .number n => some (f.signed [] ((general f.full places n).map Char.toUpper))
  | _, _ => none

end FieldForm

namespace Template

/-- The fields by their names. -/
abbrev FieldTable := String → Option FieldValue

/-- The name of a field up to the bracket that closes it, and what is left behind. -/
def readName? : Nat → List Char → Option (List Char × List Char)
  | _, [] => none
  | 0, ')' :: cs => some ([], cs)
  | depth, c :: cs =>
    let depth := if c = '(' then depth + 1 else if c = ')' then depth - 1 else depth
    (readName? depth cs).map fun (name, rest) => (c :: name, rest)

/-- Counts beyond this one are refused. -/
def maxCount : Nat := 2147483647

/-- A count in digits, of which there may be none. -/
def readCount? (cs : List Char) : Option (Nat × List Char) :=
  let (n, _, rest) := Text.readDigits 0 0 cs
  if maxCount < n then none else some (n, rest)

def readPrecision? : List Char → Option (Option Nat × List Char)
  | '.' :: cs => (readCount? cs).map fun (n, rest) => (some n, rest)
  | cs => some (none, cs)

/-- A letter for the size of a number says nothing here. -/
def dropSize : List Char → List Char
  | 'h' :: cs => cs
  | 'l' :: cs => cs
  | 'L' :: cs => cs
  | cs => cs

def isFlag (c : Char) : Bool := c = '-' || c = '+' || c = ' ' || c = '#' || c = '0'

/-- The text of a place, read behind its percent sign and first bracket, with what is left behind. -/
def fillPlace? (fields : FieldTable) (cs : List Char) : Option (List Char × List Char) := do
  let (name, cs) ← readName? 0 cs
  let v ← fields (String.ofList name)
  let flags := cs.takeWhile isFlag
  let (width, cs) ← readCount? (cs.dropWhile isFlag)
  let (precision, cs) ← readPrecision? cs
  match dropSize cs with
  | [] => none
  | letter :: rest =>
    let form : FieldForm :=
      { left := flags.contains '-', plus := flags.contains '+', blank := flags.contains ' '
        full := flags.contains '#', zeros := flags.contains '0', width, precision }
    return (← form.render? letter v, rest)

/-- Fill in all places. Every step takes a character away, so their number bounds the steps. -/
def fillFrom? (fields : FieldTable) : Nat → List Char → Option (List Char)
  | _, [] => some []
  | 0, _ => none
  | fuel + 1, '%' :: '%' :: cs => (fillFrom? fields fuel cs).map ('%' :: ·)
  | fuel + 1, '%' :: '(' :: cs => do
    let (text, rest) ← fillPlace? fields cs
    return text ++ (← fillFrom? fields fuel rest)
  | _, '%' :: _ => none
  | fuel + 1, c :: cs => (fillFrom? fields fuel cs).map (c :: ·)

/-- The template with its places filled in. -/
def fill? (fields : FieldTable) (template : String) : Option String :=
  (fillFrom? fields template.length template.toList).map String.ofList

end Template
end GitPractice
