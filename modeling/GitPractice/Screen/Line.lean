import GitPractice.Text.Blank
import GitPractice.Text.Cluster

/-!
# Lines on a screen

Text is put on a screen line by line. Controls that would move the cursor are
left out, and tabs reach to the next multiple of eight columns. A line can be
broken between its words, each of which takes the blanks behind it along.
-/

namespace GitPractice
namespace Screen

/-- Bell, backspace, vertical tab, form feed and carriage return. -/
def isDropped (c : Char) : Bool :=
  c.toNat = 7 || c.toNat = 8 || c.toNat = 11 || c.toNat = 12 || c.toNat = 13

def withoutControls (cs : List Char) : List Char := cs.filter fun c => !isDropped c

def tabWidth : Nat := 8

/-- Spaces up to the next stop behind a column that is no stop itself. -/
def toNextStop (column : Nat) : Nat :=
  if column % tabWidth = 0 then 0 else tabWidth - column % tabWidth

/-- Split at the characters that `isBreak` picks out; there is always a last part. -/
def splitAtBreaks (isBreak : Char → Bool) : List Char → List (List Char)
  | [] => [[]]
  | c :: cs =>
    if isBreak c then [] :: splitAtBreaks isBreak cs
    else
      match splitAtBreaks isBreak cs with
      | line :: lines => (c :: line) :: lines
      | [] => [[c]]

/-- The characters that end a line when its width is measured. -/
def isMeasureBreak (c : Char) : Bool :=
  c = '\n' || (0x1c ≤ c.toNat && c.toNat ≤ 0x1e) || c.toNat = 0x85 || c.toNat = 0x2028 || c.toNat = 0x2029

/-- The width of the widest line. -/
def measure (cs : List Char) : Nat :=
  ((splitAtBreaks isMeasureBreak cs).map Text.width).foldl max 0

/-- What widths come to together. -/
def totalWidth : List Nat → Nat
  | [] => 0
  | width :: widths => width + totalWidth widths

@[simp] theorem totalWidth_nil : totalWidth [] = 0 := rfl

@[simp] theorem totalWidth_cons (width : Nat) (widths : List Nat) :
    totalWidth (width :: widths) = width + totalWidth widths := rfl

/-- Cut a text into words, each with the blanks behind it; blanks at the front belong to the first one.
`word` is the word read so far in reverse, `inBlanks` whether it has reached the blanks behind it. -/
def wordsWithBlanks (word : List Char) (seen inBlanks : Bool) : List Char → List (List Char)
  | [] => if seen then [word.reverse] else []
  | c :: cs =>
    if Text.isBlank c then wordsWithBlanks (c :: word) seen seen cs
    else if inBlanks then word.reverse :: wordsWithBlanks [c] true false cs
    else wordsWithBlanks (c :: word) true false cs

/-- What becomes of a word that is wider than its place. -/
inductive Overflow where
  /-- It goes on in the next line. -/
  | fold
  /-- It is cut off, with an ellipsis for what is missing. -/
  | ellipsis
deriving DecidableEq

/-- The places where a word that goes on is cut, and the width of its last part. `column` and `place` are
those before the clusters that are left. -/
def cuts (width column place : Nat) : List Text.Cluster → List Nat × Nat
  | [] => ([], column)
  | k :: ks =>
    let behind := place + k.chars.length
    if column + k.width ≤ width then cuts width (column + k.width) behind ks
    else
      let (places, last) := cuts width k.width behind ks
      (place :: places, last)

/-- The places where a line breaks so that it fits into so many columns. `column` and `place` are those
before the words that are left. A word that is too wide by itself begins a line and goes on in the next one,
or it stays whole to be cut off there. -/
def breaks (overflow : Overflow) (width column place : Nat) : List (List Char) → List Nat
  | [] => []
  | word :: words =>
    let solid := Text.width (Text.dropEndWhile Text.isBlank word)
    let behind := place + word.length
    if column + solid ≤ width then breaks overflow width (column + Text.width word) behind words
    else
      let (places, last) :=
        if overflow = .fold ∧ width < solid then cuts width 0 place (Text.clusters word)
        else ([], Text.width word)
      ((place :: places).filter (0 < ·)) ++ breaks overflow width last behind words

/-- How many blanks at the end of a line are too many, as it has more characters than there are columns. -/
def excess (width : Nat) (line : List Char) : Nat :=
  min (line.length - (Text.dropEndWhile Text.isBlank line).length) (line.length - width)

end Screen
end GitPractice
