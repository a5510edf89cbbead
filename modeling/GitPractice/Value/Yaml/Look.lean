import GitPractice.Text.Blank
import GitPractice.Text.Digits

/-!
# What YAML texts look like

A text without quotes stands for nothing, a truth value, a number or a moment if
it has the form of one (after YAML 1.1), and else for itself. The same forms
decide which texts must be quoted when they are written.
-/

namespace GitPractice
namespace Yaml

/-- What kind of value a node is. -/
inductive Tag where
  | null
  | bool
  | int
  | real
  | moment
  | binary
  | text
  | list
  | record
  | set
  /-- A list of pairs, by either of its two names. -/
  | pairs
  /-- The sign for a record that is put into another one. -/
  | merge
  /-- The sign for the value of a record that stands for one. -/
  | default
  | other
deriving DecidableEq, Inhabited

namespace Tag

/-- How the tags of the common kinds begin. -/
def commonStart : String := "tag:yaml.org,2002:"

def common : List (String × Tag) :=
  [("null", null), ("bool", bool), ("int", int), ("float", real), ("timestamp", moment), ("binary", binary),
   ("str", text), ("seq", list), ("map", record), ("set", set), ("omap", pairs), ("pairs", pairs),
   ("merge", merge), ("value", default)]

def ofText (s : String) : Tag :=
  ((common.find? fun (name, _) => commonStart ++ name = s).map (·.2)).getD other

/-- Whether the value under the tag is that of a text. -/
def isForText : Tag → Bool
  | null | bool | int | real | moment | binary | text => true
  | _ => false

end Tag

namespace Look

def trueWords : List String := ["yes", "Yes", "YES", "true", "True", "TRUE", "on", "On", "ON"]

def falseWords : List String := ["no", "No", "NO", "false", "False", "FALSE", "off", "Off", "OFF"]

def nullWords : List String := ["", "~", "null", "Null", "NULL"]

def isDigit (c : Char) : Bool := '0' ≤ c && c ≤ '9'

def isDigitOrGap (c : Char) : Bool := isDigit c || c = '_'

def isHexDigit (c : Char) : Bool := isDigit c || ('a' ≤ c && c ≤ 'f') || ('A' ≤ c && c ≤ 'F')

/-- The text behind a sign, if there is one. -/
def dropSign (cs : List Char) : List Char :=
  match cs with
  | '-' :: rest => rest
  | '+' :: rest => rest
  | cs => cs

/-- Whether there is at least one character, and all satisfy `p`. -/
def isRun (p : Char → Bool) (cs : List Char) : Bool := !cs.isEmpty && cs.all p

/-- Parts of base sixty behind colons, at least one, with `ending` behind the last: one digit, or two of
which the first is below six. -/
def areSixtieths (ending : List Char → Bool) : List Char → Bool
  | ':' :: a :: b :: cs =>
    (isDigit a && (ending (b :: cs) || areSixtieths ending (b :: cs))) ||
      (('0' ≤ a && a ≤ '5') && isDigit b && (ending cs || areSixtieths ending cs))
  | [':', a] => isDigit a && ending []
  | _ => false

def startsWithDigit (cs : List Char) : Bool := cs.head?.any isDigit

/-- Whether the text behind a sign is an integer in base two, eight, ten, sixteen or sixty. -/
def isMagnitude (cs : List Char) : Bool :=
  let digits := cs.takeWhile isDigitOrGap
  let behind := cs.dropWhile isDigitOrGap
  match cs with
  | '0' :: 'b' :: rest => isRun (fun c => c = '0' || c = '1' || c = '_') rest
  | '0' :: 'x' :: rest => isRun (fun c => isHexDigit c || c = '_') rest
  | '0' :: rest => rest.all fun c => ('0' ≤ c && c ≤ '7') || c = '_'
  | _ => startsWithDigit cs && digits ≠ [] && (behind.isEmpty || areSixtieths List.isEmpty behind)

def isInteger (cs : List Char) : Bool := isMagnitude (dropSign cs)

/-- An exponent with its sign, or nothing. -/
def isExponent (cs : List Char) : Bool :=
  match cs with
  | [] => true
  | e :: sign :: digits => (e = 'e' || e = 'E') && (sign = '+' || sign = '-') && isRun isDigit digits
  | _ => false

/-- A number with a point, which may be in base sixty before it. -/
def isReal (cs : List Char) : Bool :=
  let unsigned := dropSign cs
  let behind := unsigned.dropWhile isDigitOrGap
  let isPoint (rest : List Char) : Bool :=
    match rest with
    | '.' :: rest => rest.all isDigitOrGap
    | _ => false
  (startsWithDigit unsigned &&
      ((match behind with
        | '.' :: rest => isExponent (rest.dropWhile isDigitOrGap)
        | _ => false) || areSixtieths isPoint behind)) ||
    (match cs with
      | '.' :: rest => startsWithDigit rest && isExponent (rest.dropWhile isDigitOrGap)
      | _ => false) ||
    ([".inf", ".Inf", ".INF"].contains (String.ofList unsigned)) ||
    ([".nan", ".NaN", ".NAN"].contains (String.ofList cs))

/-! ## Moments -/

/-- A moment by its numbers, which need not be those of a real one. -/
structure Moment where
  year : Nat
  month : Nat
  day : Nat
  /-- Whether month and day are written with two digits. -/
  isPadded : Bool
  /-- Hour, minute, second and the digits behind the point. -/
  time : Option (Nat × Nat × Nat × List Char) := none
  /-- The distance from universal time in minutes. -/
  offset : Option Int := none

/-- Read one or two digits; how many comes with the value. -/
def readShort (cs : List Char) : Option (Nat × Nat × List Char) :=
  let (value, count, _) := Text.readDigits 0 0 (cs.take 2)
  if count = 0 then none else some (value, count, cs.drop count)

def readSign (sign : Char) (cs : List Char) : Option (List Char) :=
  match cs with
  | c :: rest => if c = sign then some rest else none
  | [] => none

def dropBlanks (cs : List Char) : List Char := cs.dropWhile fun c => c = ' ' || c = '\t'

/-- The distance from universal time at the end of a moment; an inner `none` where it is not told. -/
def readOffset? (cs : List Char) : Option (Option Int) :=
  if cs.isEmpty then some none
  else
    match dropBlanks cs with
    | ['Z'] => some (some 0)
    | sign :: rest =>
      if sign = '+' || sign = '-' then do
        let (hours, _, rest) ← readShort rest
        let minutes ←
          match rest with
          | [] => some 0
          | [':', a, b] => (Text.readFixed? 2 0 [a, b]).map (·.1)
          | _ => none
        let distance : Int := (60 * hours + minutes : Nat)
        return some (if sign = '-' then -distance else distance)
      else none
    | [] => none

/-- The time behind a day: a letter or blanks, and then hour, minute and second. -/
def readTime? (cs : List Char) : Option ((Nat × Nat × Nat × List Char) × List Char) := do
  let rest ←
    match cs with
    | 'T' :: rest => some rest
    | 't' :: rest => some rest
    | cs => if (dropBlanks cs).length < cs.length then some (dropBlanks cs) else none
  let (hour, _, rest) ← readShort rest
  let rest ← readSign ':' rest
  let (minute, rest) ← Text.readFixed? 2 0 rest
  let rest ← readSign ':' rest
  let (second, rest) ← Text.readFixed? 2 0 rest
  match rest with
  | '.' :: rest => return ((hour, minute, second, rest.takeWhile isDigit), rest.dropWhile isDigit)
  | rest => return ((hour, minute, second, []), rest)

def readMoment? (cs : List Char) : Option Moment := do
  let (year, rest) ← Text.readFixed? 4 0 cs
  let rest ← readSign '-' rest
  let (month, monthPlaces, rest) ← readShort rest
  let rest ← readSign '-' rest
  let (day, dayPlaces, rest) ← readShort rest
  let isPadded := monthPlaces = 2 && dayPlaces = 2
  if rest.isEmpty then return { year, month, day, isPadded }
  else
    let (time, rest) ← readTime? rest
    let offset ← readOffset? rest
    return { year, month, day, isPadded, time := some time, offset }

/-- A day alone must be written in full. -/
def isMoment (cs : List Char) : Bool :=
  match readMoment? cs with
  | some m => m.isPadded || m.time.isSome
  | none => false

/-! ## The kind of a text -/

/-- One line feed at the end of a text does not count. -/
def dropLastBreak (cs : List Char) : List Char := if cs.getLast? = some '\n' then cs.dropLast else cs

/-- What a text without quotes and tag is. -/
def tagOf (cs : List Char) : Tag :=
  if cs.head? = some '\n' then .text
  else
    let cs := dropLastBreak cs
    let s := String.ofList cs
    if trueWords.contains s || falseWords.contains s then .bool
    else if isReal cs then .real
    else if isInteger cs then .int
    else if s = "<<" then .merge
    else if nullWords.contains s then .null
    else if isMoment cs then .moment
    else if s = "=" then .default
    else if s = "!" || s = "&" || s = "*" then .other
    else .text

end Look
end Yaml
end GitPractice
