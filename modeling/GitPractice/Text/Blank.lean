/-!
# Blanks and words

A typed line is read word by word. Which characters separate words is fixed
here once: the controls that move the cursor, the ASCII separators, and the
spaces and line breaks of Unicode. The zero-width characters are not blanks.

All of it works on lists of characters by structural recursion, so that a word
split can be computed by the kernel and argued about by induction.
-/

namespace GitPractice
namespace Text

/-- The characters that separate words. -/
def isBlank (c : Char) : Bool :=
  let n := c.toNat
  (9 ≤ n && n ≤ 13) || (28 ≤ n && n ≤ 32) || n == 0x85 || n == 0xa0 || n == 0x1680 ||
    (0x2000 ≤ n && n ≤ 0x200a) || n == 0x2028 || n == 0x2029 || n == 0x202f || n == 0x205f ||
    n == 0x3000

/-- Whether the text goes on with a character of the same word. -/
def continuesWord : List Char → Bool
  | [] => false
  | c :: _ => !isBlank c

/-- Put a character in front of the first word. -/
def extendFirst (c : Char) : List (List Char) → List (List Char)
  | [] => [[c]]
  | w :: ws => (c :: w) :: ws

/-- The maximal runs without a blank, in order. -/
def splitWords : List Char → List (List Char)
  | [] => []
  | c :: cs =>
    if isBlank c then splitWords cs
    else if continuesWord cs then extendFirst c (splitWords cs)
    else [c] :: splitWords cs

/-- The words of a line. -/
def words (s : String) : List String :=
  (splitWords s.toList).map String.ofList

/-- Drop the characters at the end that satisfy `p`. -/
def dropEndWhile (p : Char → Bool) (cs : List Char) : List Char :=
  (cs.reverse.dropWhile p).reverse

/-- Drop the blanks at both ends. -/
def stripChars (cs : List Char) : List Char :=
  dropEndWhile isBlank (cs.dropWhile isBlank)

/-- The text without the blanks at both ends. -/
def strip (s : String) : String := String.ofList (stripChars s.toList)

/-- The first `n` characters. -/
def take (s : String) (n : Nat) : String := String.ofList (s.toList.take n)

/-- Whether `s` begins with `start`. -/
def startsWith (s start : String) : Bool := start.toList.isPrefixOf s.toList

/-- The texts one after the other with `sep` between neighbours. -/
def join (sep : String) : List String → String
  | [] => ""
  | [s] => s
  | s :: t :: rest => s ++ sep ++ join sep (t :: rest)

theorem splitWords_of_blank {c : Char} (cs : List Char) (h : isBlank c = true) :
    splitWords (c :: cs) = splitWords cs := by
  simp [splitWords, h]

end Text
end GitPractice
