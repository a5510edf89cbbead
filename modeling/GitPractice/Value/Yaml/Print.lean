import GitPractice.Text.Blank
import GitPractice.Value.Basic
import GitPractice.Value.Yaml.Look

/-!
# Writing YAML

Records and lists are written as blocks, with their keys in rising order, and in
ASCII throughout. A text stands without quotes if it is then read as itself, in
single quotes if that is enough, and else in double quotes. Lines that have grown
beyond 80 columns are continued at the next space, or in double quotes anywhere.
A key that is empty, long or broken into lines is marked as a key.

What is written next depends on where the writing stands, so a sheet keeps the
column, and whether only blanks and signs of blocks stand before it on the line.
-/

namespace GitPractice
namespace Yaml

/-- How far a text stands out, and the column of blocks. -/
structure Sheet where
  /-- What has been written, in reverse. -/
  written : List Char := []
  column : Nat := 0
  /-- Whether a blank or a line break has just been written. -/
  isAfterBlank : Bool := true
  /-- Whether nothing but indentation and signs of blocks stands on the line. -/
  isIndented : Bool := true

namespace Sheet

def lineWidth : Nat := 80

def write (s : Sheet) (cs : List Char) : Sheet :=
  { s with written := cs.reverse ++ s.written, column := s.column + cs.length }

/-- End the line with the given character. -/
def breakLineWith (s : Sheet) (c : Char) : Sheet :=
  { written := c :: s.written, column := 0, isAfterBlank := true, isIndented := true }

def breakLine (s : Sheet) : Sheet := s.breakLineWith '\n'

/-- Go to the column `indent`, on this line if nothing is in the way. -/
def goTo (s : Sheet) (indent : Nat) : Sheet :=
  let s :=
    if !s.isIndented || indent < s.column || (s.column = indent && !s.isAfterBlank) then s.breakLine else s
  if s.column < indent then { s.write (List.replicate (indent - s.column) ' ') with isAfterBlank := true }
  else s

/-- Write the sign of a block, apart from what is before it. -/
def writeSign (s : Sheet) (sign : Char) : Sheet :=
  let s := s.write (if s.isAfterBlank then [sign] else [' ', sign])
  { s with isAfterBlank := false }

/-- Write a sign behind which no block goes on in the line. -/
def writeMark (s : Sheet) (isApart : Bool) (cs : List Char) : Sheet :=
  let s := s.write (if isApart && !s.isAfterBlank then ' ' :: cs else cs)
  { s with isAfterBlank := false, isIndented := false }

end Sheet

/-! ## Which form a text takes -/

/-- What the choice of a form depends on. -/
structure Traits where
  isEmpty : Bool
  hasBreaks : Bool
  allowsPlain : Bool
  allowsSingle : Bool

def isLineBreak (n : Nat) : Bool := n = 10 || n = 0x85 || n = 0x2028 || n = 0x2029

/-- Space, tab, line break or null. -/
def isGapPoint (n : Nat) : Bool := n = 0 || n = 32 || n = 9 || n = 13 || isLineBreak n

/-- A character outside ASCII or a control, which is written with an escape. -/
def needsEscape (n : Nat) : Bool := !(n = 10 || (0x20 ≤ n && n ≤ 0x7e))

def isOneOf (signs : String) (n : Nat) : Bool := signs.toList.any (·.toNat = n)

/-- Whether a sign at the front would make the text something else. -/
def startsWithSign : List Nat → Bool
  | [] => false
  | n :: rest =>
    let isAlone := isGapPoint (rest.headD 0)
    isOneOf "#,[]\x7b\x7d&*!|>'\"%@\x60" n || (isOneOf "?:-" n && isAlone) ||
      ([45, 45].isPrefixOf rest && n = 45) || ([46, 46].isPrefixOf rest && n = 46)

/-- Whether a comment or a value would begin inside the text: at a number sign behind a gap, or a colon
before one. `before` is the character before. -/
def hasInnerSign (before : Nat) : List Nat → Bool
  | [] => false
  | n :: rest =>
    (n = 58 && isGapPoint (rest.headD 0)) || (n = 35 && isGapPoint before) || hasInnerSign n rest

/-- Whether a character of the first kind comes right before one of the second. -/
def hasPair (first second : Nat → Bool) : List Nat → Bool
  | n :: m :: rest => (first n && second m) || hasPair first second (m :: rest)
  | _ => false

def isSpace (n : Nat) : Bool := n = 32

def traitsOf (points : List Nat) : Traits :=
  match points with
  | [] => { isEmpty := true, hasBreaks := false, allowsPlain := true, allowsSingle := true }
  | first :: rest =>
    let isEdge (n : Nat) : Bool := isSpace n || isLineBreak n
    let hasBreaks := points.any isLineBreak
    let needsDouble := points.any needsEscape || hasPair isSpace isLineBreak points
    let hasOddEdges := isEdge first || points.getLast?.any isEdge
    let isSigned := startsWithSign points || hasInnerSign first rest
    { isEmpty := false, hasBreaks
      allowsPlain := !(hasOddEdges || hasBreaks || needsDouble || isSigned)
      allowsSingle := !(needsDouble || hasPair isLineBreak isSpace points) }

inductive Form where
  | plain
  | single
  | double
deriving DecidableEq

/-- The form of a text. `isItself` tells whether it is read as itself without quotes, and `isKey`
whether it is a key without a mark. -/
def formOf (t : Traits) (isItself isKey : Bool) : Form :=
  if isItself && !(isKey && (t.isEmpty || t.hasBreaks)) && t.allowsPlain then .plain
  else if t.allowsSingle && !(isKey && t.hasBreaks) then .single
  else .double

/-! ## Writing texts -/

/-- Split into runs of spaces, of line breaks and of everything else. -/
def runs : List Nat → List (List Nat)
  | [] => []
  | n :: rest =>
    match runs rest with
    | (m :: run) :: more =>
      if isSpace n = isSpace m && isLineBreak n = isLineBreak m then (n :: m :: run) :: more
      else [n] :: (m :: run) :: more
    | more => [n] :: more

def charsOfPoints (points : List Nat) : List Char := points.map Char.ofNat

/-- A space between two words ends a line that is full, if lines may be broken. -/
def breaksAt (s : Sheet) (mayBreak isInside : Bool) (run : List Nat) : Bool :=
  run.length = 1 && Sheet.lineWidth < s.column && mayBreak && isInside

def writePlainRuns (mayBreak : Bool) (indent : Nat) : Bool → Sheet → List (List Nat) → Sheet
  | _, s, [] => s
  | isFirst, s, run :: rest =>
    if run.all isSpace && breaksAt s mayBreak (!isFirst && !rest.isEmpty) run then
      writePlainRuns mayBreak indent false
        { s.goTo indent with isAfterBlank := false, isIndented := false } rest
    else writePlainRuns mayBreak indent false (s.write (charsOfPoints run)) rest

def writePlain (s : Sheet) (mayBreak : Bool) (indent : Nat) (points : List Nat) : Sheet :=
  if points.isEmpty then s
  else
    let s := if s.isAfterBlank then s else s.write [' ']
    writePlainRuns mayBreak indent true { s with isAfterBlank := false, isIndented := false } (runs points)

/-- A quote is written twice. -/
def doubleQuotes (points : List Nat) : List Char :=
  (charsOfPoints points).flatMap fun c => if c = '\'' then ['\'', '\''] else [c]

/-- A line break alone would be read as a space, so there is one more of them. -/
def writeBreaks (s : Sheet) (run : List Nat) : Sheet :=
  let s := if run.head? = some 10 then s.breakLine else s
  run.foldl (fun s n => s.breakLineWith (Char.ofNat n)) s

def writeSingleRuns (mayBreak : Bool) (indent : Nat) : Bool → Sheet → List (List Nat) → Sheet
  | _, s, [] => s
  | isFirst, s, run :: rest =>
    let s :=
      if run.all isSpace then
        if breaksAt s mayBreak (!isFirst && !rest.isEmpty) run then s.goTo indent
        else s.write (charsOfPoints run)
      else if run.all isLineBreak then (writeBreaks s run).goTo indent
      else s.write (doubleQuotes run)
    writeSingleRuns mayBreak indent false s rest

def writeSingle (s : Sheet) (mayBreak : Bool) (indent : Nat) (points : List Nat) : Sheet :=
  (writeSingleRuns mayBreak indent true (s.writeMark true ['\'']) (runs points)).writeMark false ['\'']

/-- The number `n` in `width` hexadecimal places, in capital letters. -/
def capitalHex : Nat → Nat → List Char
  | 0, _ => []
  | width + 1, n =>
    capitalHex width (n / 16) ++ [if n % 16 < 10 then Char.ofNat (48 + n % 16) else Char.ofNat (55 + n % 16)]

/-- The letter of an escape of two characters. -/
def escapeLetter? (n : Nat) : Option Char :=
  match n with
  | 0 => some '0'
  | 7 => some 'a'
  | 8 => some 'b'
  | 9 => some 't'
  | 10 => some 'n'
  | 11 => some 'v'
  | 12 => some 'f'
  | 13 => some 'r'
  | 27 => some 'e'
  | 34 => some '"'
  | 92 => some '\\'
  | 0x85 => some 'N'
  | 0xa0 => some '_'
  | 0x2028 => some 'L'
  | 0x2029 => some 'P'
  | _ => none

/-- The escape of a character, if it needs one. -/
def escapeOf? (n : Nat) : Option (List Char) :=
  if (0x20 ≤ n && n ≤ 0x7e) && n ≠ 34 && n ≠ 92 then none
  else
    match escapeLetter? n with
    | some letter => some ['\\', letter]
    | none =>
      some (if n ≤ 0xff then '\\' :: 'x' :: capitalHex 2 n
        else if n ≤ 0xffff then '\\' :: 'u' :: capitalHex 4 n
        else '\\' :: 'U' :: capitalHex 8 n)

/-- Continue a text in double quotes on the next line. A space at its front would be lost there. -/
def continueLine (s : Sheet) (indent : Nat) (rest : List Nat) : Sheet :=
  let s := { (s.write ['\\']).goTo indent with isAfterBlank := false, isIndented := false }
  if rest.head? = some 32 then s.write ['\\'] else s

/-- Write the inside of double quotes. `pending` holds the characters without an escape that are still
to be written, in reverse. A full line may end behind an escape and before a space, but not before the
second character nor before the last. -/
def writeDoubleInside (mayBreak : Bool) (indent : Nat) :
    (isFirst : Bool) → Sheet → List Nat → List Nat → Sheet
  | _, s, pending, [] => s.write (charsOfPoints pending.reverse)
  | isFirst, s, pending, n :: rest =>
    let mayBreakHere := mayBreak && !isFirst && !rest.isEmpty
    match escapeOf? n with
    | some escape =>
      let s := (s.write (charsOfPoints pending.reverse)).write escape
      let s := if mayBreakHere && Sheet.lineWidth + 1 < s.column then continueLine s indent rest else s
      writeDoubleInside mayBreak indent false s [] rest
    | none =>
      if mayBreakHere && (n = 32 || pending.isEmpty) && Sheet.lineWidth < s.column + pending.length then
        let s := continueLine (s.write (charsOfPoints pending.reverse)) indent (n :: rest)
        writeDoubleInside mayBreak indent false s [n] rest
      else writeDoubleInside mayBreak indent false s (n :: pending) rest

def writeDouble (s : Sheet) (mayBreak : Bool) (indent : Nat) (points : List Nat) : Sheet :=
  (writeDoubleInside mayBreak indent true (s.writeMark true ['"']) [] points).writeMark false ['"']

/-! ## Writing values -/

/-- A number always has a point, also before an exponent. -/
def realText (x : Real64) : String :=
  let text := (x.text { infinity := ".inf", nan := ".nan" }).toList
  if text.contains '.' then String.ofList text
  else String.ofList (text.flatMap fun c => if c = 'e' then ['.', '0', 'e'] else [c])

/-- The text of a scalar, and whether it is a text. -/
def scalarText : Scalar → List Nat × Bool
  | .null => (chars "null", false)
  | .bool true => (chars "true", false)
  | .bool false => (chars "false", false)
  | .int n => (chars (toString n), false)
  | .real x => (chars (realText x), false)
  | .text s => (chars s, true)
  | .unpaired points => (points, true)
  | .bytes _ => ([], true)
  | .date d => (chars d.isoText, false)
  | .time t => (chars t.isoText, true)
  | .moment m => (chars m.text, false)
where
  chars (s : String) : List Nat := s.toList.map Char.toNat

/-- Write a scalar; `indent` is where its further lines begin. -/
def writeScalar (s : Sheet) (isKey : Bool) (indent : Nat) (a : Scalar) : Sheet :=
  let (points, isText) := scalarText a
  let isItself := !isText || Look.tagOf (charsOfPoints points) = .text
  match formOf (traitsOf points) isItself isKey with
  | .plain => writePlain s (!isKey) indent points
  | .single => writeSingle s (!isKey) indent points
  | .double => writeDouble s (!isKey) indent points

/-- The length of the tag that a key has without writing it. -/
def tagLength : Scalar → Nat
  | .null => 6
  | .bool _ => 6
  | .int _ => 5
  | .real _ => 7
  | .bytes _ => 8
  | .date _ => 11
  | .moment _ => 11
  | _ => 5

/-- Whether a key needs no mark. -/
def isSimpleKey (a : Scalar) : Bool :=
  let points := (scalarText a).1
  tagLength a + points.length < 128 && !points.isEmpty && !points.any isLineBreak

/-- Where the parts of a block at `indent` stand; the outermost block has no indentation. -/
def innerIndent : Option Nat → Nat
  | none => 0
  | some n => n + 2

/-- Where the further lines of a text at `indent` begin. -/
def textIndent : Option Nat → Nat
  | none => 2
  | some n => n + 2

def keyText (a : Scalar) : String := String.ofList (charsOfPoints (scalarText a).1)

mutual

/-- Write a value. As the value of an entry it may be a list at the column of its key. -/
def writeValue (indent : Option Nat) (inEntry : Bool) (s : Sheet) : Value → Sheet
  | .atom a => writeScalar s false (textIndent indent) a
  | .list [] => (s.writeMark true ['[']).writeMark false [']']
  | .list items =>
    let column := if inEntry && !s.isIndented then indent.getD 0 else innerIndent indent
    writeItems column s items
  | .record [] => (s.writeMark true ['\x7b']).writeMark false ['\x7d']
  | .record fields => writeEntries (innerIndent indent) s fields
  | .pair first second =>
    let column := innerIndent indent
    let s := writeValue (some column) false ((s.goTo column).writeSign '-') first
    writeValue (some column) false ((s.goTo column).writeSign '-') second
  | .set _ => s
  | .shared _ => s
  | .recurrence _ => s

def writeItems (column : Nat) (s : Sheet) : List Value → Sheet
  | [] => s
  | item :: rest =>
    writeItems column (writeValue (some column) false ((s.goTo column).writeSign '-') item) rest

def writeEntries (column : Nat) (s : Sheet) : List (Scalar × Value) → Sheet
  | [] => s
  | (key, value) :: rest =>
    let s := s.goTo column
    let s :=
      if isSimpleKey key then (writeScalar s true (column + 2) key).writeMark false [':']
      else
        let s := writeScalar (s.writeSign '?') false (column + 2) key
        (s.goTo column).writeSign ':'
    writeEntries column (writeValue (some column) true s value) rest

end

mutual

/-- The value with the keys of all records in rising order. -/
def sorted : Value → Value
  | .list items => .list (sortedItems items)
  | .record fields => .record ((sortedEntries fields).mergeSort fun f g => decide (keyText f.1 ≤ keyText g.1))
  | v => v

def sortedItems : List Value → List Value
  | [] => []
  | v :: rest => sorted v :: sortedItems rest

def sortedEntries : List (Scalar × Value) → List (Scalar × Value)
  | [] => []
  | (k, v) :: rest => (k, sorted v) :: sortedEntries rest

end

/-- The text of a file that holds the record. -/
def print (fields : Fields) : String :=
  String.ofList ((writeValue none false {} (sorted (.record fields))).goTo 0).written.reverse

end Yaml
end GitPractice
