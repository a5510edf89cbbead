import GitPractice.Text.Half
import GitPractice.Text.Numeral
import GitPractice.Value.Basic

/-!
# Reading JSON

The grammar of JSON, with three number words that it lacks (`NaN`, `Infinity`,
`-Infinity`). A number with a fraction or an exponent is a binary64 number, any
other one an integer. Control characters inside a text are refused, and so are
integers of more digits than a limit, which is 4300 unless another one is set. Of
entries with one key the last counts.

A reader takes the characters from the front and gives back the rest. Values
nest, so the readers of values, items and entries call each other; a budget that
goes down at every call makes that recursion structural, and twice the number of
characters is enough of it.
-/

namespace GitPractice
namespace Json

def isSpace (c : Char) : Bool := c = ' ' || c = '\t' || c = '\n' || c = '\r'

def skipSpace (cs : List Char) : List Char := cs.dropWhile isSpace

def hexValue? (c : Char) : Option Nat :=
  if '0' ≤ c && c ≤ '9' then some (c.toNat - 48)
  else if 'a' ≤ c && c ≤ 'f' then some (c.toNat - 87)
  else if 'A' ≤ c && c ≤ 'F' then some (c.toNat - 55)
  else none

def hexUnit? (a b c d : Char) : Option Nat := do
  let a ← hexValue? a
  let b ← hexValue? b
  let c ← hexValue? c
  let d ← hexValue? d
  return 4096 * a + 256 * b + 16 * c + d

/-- What a backslash and this character stand for. -/
def simpleEscape? : Char → Option Char
  | '"' => some '"'
  | '\\' => some '\\'
  | '/' => some '/'
  | 'b' => some '\x08'
  | 'f' => some '\x0c'
  | 'n' => some '\n'
  | 'r' => some '\r'
  | 't' => some '\t'
  | _ => none

/-- Read a text up to its closing quote as numbers, a unit of UTF-16 for an escape with `u` and the
code point for everything else. The numbers read so far come in reverse in `acc`. -/
def readUnits (acc : List Nat) : List Char → Option (List Nat × List Char)
  | [] => none
  | '"' :: rest => some (acc.reverse, rest)
  | '\\' :: 'u' :: a :: b :: c :: d :: rest =>
    match hexUnit? a b c d with
    | some n => readUnits (n :: acc) rest
    | none => none
  | '\\' :: e :: rest =>
    match simpleEscape? e with
    | some c => readUnits (c.toNat :: acc) rest
    | none => none
  | c :: rest => if c.toNat < 32 || c = '\\' then none else readUnits (c.toNat :: acc) rest

/-- Join the two halves of a pair of units. -/
def joinUnits : List Nat → List Nat
  | [] => []
  | [n] => [n]
  | n :: m :: rest =>
    if 0xd800 ≤ n ∧ n < 0xdc00 ∧ 0xdc00 ≤ m ∧ m < 0xe000 then
      (0x10000 + (n - 0xd800) * 0x400 + (m - 0xdc00)) :: joinUnits rest
    else n :: joinUnits (m :: rest)

/-- The text of code points. Halves that have found no partner leave it a text that cannot be encoded. -/
def textOfPoints (points : List Nat) : Scalar :=
  if points.any Text.isHalf then .unpaired points
  else .text (String.ofList (points.map Char.ofNat))

/-- Read a text after its opening quote. -/
def readText (cs : List Char) : Option (Scalar × List Char) :=
  (readUnits [] cs).map fun (units, rest) => (textOfPoints (joinUnits units), rest)

/-- The digits behind the point, if there is a point with a digit behind it: their value attached to
`acc`, their number, and the rest. -/
def readFraction (acc : Nat) (cs : List Char) : Option (Nat × Nat × List Char) :=
  match cs with
  | '.' :: rest =>
    let (value, count, rest) := Text.readDigits acc 0 rest
    if count = 0 then none else some (value, count, rest)
  | _ => none

/-- The exponent, if there is one with a digit. -/
def readExponent (cs : List Char) : Option (Int × List Char) :=
  let magnitude (rest : List Char) : Option (Nat × List Char) :=
    let (value, count, rest) := Text.readDigits 0 0 rest
    if count = 0 then none else some (value, rest)
  match cs with
  | e :: rest =>
    if e = 'e' || e = 'E' then
      match rest with
      | '-' :: rest => (magnitude rest).map fun (n, rest) => (-(n : Int), rest)
      | '+' :: rest => (magnitude rest).map fun (n, rest) => ((n : Int), rest)
      | rest => (magnitude rest).map fun (n, rest) => ((n : Int), rest)
    else none
  | [] => none

/-- Read a number after its sign. A zero ends the integer part. An integer may have `limit` digits. -/
def readNumber (limit : Nat) (negative : Bool) (cs : List Char) : Option (Value × List Char) :=
  let integer : Option (Nat × Nat × List Char) :=
    match cs with
    | '0' :: rest => some (0, 1, rest)
    | cs =>
      let (value, count, rest) := Text.readDigits 0 0 cs
      if count = 0 then none else some (value, count, rest)
  integer.bind fun (value, count, rest) =>
    match readFraction value rest, readExponent rest with
    | some (value, places, rest), _ =>
      match readExponent rest with
      | some (exponent, rest) =>
        some (.real (.ofDecimal negative value (exponent - places)), rest)
      | none => some (.real (.ofDecimal negative value (-(places : Int))), rest)
    | none, some (exponent, rest) => some (.real (.ofDecimal negative value exponent), rest)
    | none, none =>
      if limit < count then none
      else some (.int (if negative then -(value : Int) else value), rest)

/-- Read a value without parts. -/
def readAtom (limit : Nat) : List Char → Option (Value × List Char)
  | 'n' :: 'u' :: 'l' :: 'l' :: rest => some (.null, rest)
  | 't' :: 'r' :: 'u' :: 'e' :: rest => some (.bool true, rest)
  | 'f' :: 'a' :: 'l' :: 's' :: 'e' :: rest => some (.bool false, rest)
  | 'N' :: 'a' :: 'N' :: rest => some (.real .nan, rest)
  | 'I' :: 'n' :: 'f' :: 'i' :: 'n' :: 'i' :: 't' :: 'y' :: rest => some (.real (.infinity false), rest)
  | '-' :: 'I' :: 'n' :: 'f' :: 'i' :: 'n' :: 'i' :: 't' :: 'y' :: rest =>
    some (.real (.infinity true), rest)
  | '-' :: rest => readNumber limit true rest
  | cs => readNumber limit false cs

mutual

/-- Read a value that begins here. -/
def readValue (limit : Nat) : Nat → List Char → Option (Value × List Char)
  | 0, _ => none
  | fuel + 1, cs =>
    match cs with
    | '"' :: rest => (readText rest).map fun (a, rest) => (.atom a, rest)
    | '[' :: rest =>
      match skipSpace rest with
      | ']' :: rest => some (.list [], rest)
      | rest => readItems limit fuel [] rest
    | '\x7b' :: rest =>
      match skipSpace rest with
      | '\x7d' :: rest => some (.record [], rest)
      | rest => readEntries limit fuel [] rest
    | cs => readAtom limit cs

/-- Read the items of a list, those before in reverse in `acc`. -/
def readItems (limit : Nat) : Nat → List Value → List Char → Option (Value × List Char)
  | 0, _, _ => none
  | fuel + 1, acc, cs =>
    match readValue limit fuel cs with
    | none => none
    | some (v, rest) =>
      match skipSpace rest with
      | ',' :: rest => readItems limit fuel (v :: acc) (skipSpace rest)
      | ']' :: rest => some (.list (v :: acc).reverse, rest)
      | _ => none

/-- Read the entries of a record, those before in reverse in `acc`. -/
def readEntries (limit : Nat) : Nat → List (Scalar × Value) → List Char → Option (Value × List Char)
  | 0, _, _ => none
  | fuel + 1, acc, cs =>
    match cs with
    | '"' :: rest =>
      match readText rest with
      | none => none
      | some (key, rest) =>
        match skipSpace rest with
        | ':' :: rest =>
          match readValue limit fuel (skipSpace rest) with
          | none => none
          | some (v, rest) =>
            match skipSpace rest with
            | ',' :: rest => readEntries limit fuel ((key, v) :: acc) (skipSpace rest)
            | '\x7d' :: rest => some (.record (Fields.ofEntries ((key, v) :: acc).reverse), rest)
            | _ => none
        | _ => none
    | _ => none

end

/-- Read a whole text as one value with integers of at most `limit` digits. -/
def parseWithin (limit : Nat) (s : String) : Option Value :=
  let cs := s.toList
  match readValue limit (2 * cs.length + 2) (skipSpace cs) with
  | some (v, rest) => if (skipSpace rest).isEmpty then some v else none
  | none => none

/-- Read a whole text as one value. -/
def parse? (s : String) : Option Value := parseWithin Text.maxIntegerDigits s

/-- A bracket that opens a value deeper inside others than is read. -/
structure DeepBracket where
  bracket : Char
  /-- The text before the bracket, with a value in its place and everything closed that is open there. -/
  before : String

/-- The first bracket that opens a value inside of `limit` others. Brackets inside texts do not count.
`passed` is what has been read, in reverse, and `closers` closes what is open, the innermost first. -/
def deepBracket? (limit : Nat) (inText : Bool) (passed closers : List Char) : List Char → Option DeepBracket
  | [] => none
  | '\\' :: c :: rest => deepBracket? limit inText (c :: '\\' :: passed) closers rest
  | c :: rest =>
    if c = '"' then deepBracket? limit (!inText) (c :: passed) closers rest
    else if inText then deepBracket? limit true (c :: passed) closers rest
    else if c = '[' || c = '\x7b' then
      if limit ≤ closers.length then
        some { bracket := c, before := String.ofList (passed.reverse ++ ['"', '"'] ++ closers) }
      else deepBracket? limit false (c :: passed) ((if c = '[' then ']' else '\x7d') :: closers) rest
    else if c = ']' || c = '\x7d' then deepBracket? limit false (c :: passed) (closers.drop 1) rest
    else deepBracket? limit false (c :: passed) closers rest

end Json
end GitPractice
