import GitPractice.Text.Quoted

/-!
# Halves of surrogate pairs

Text that is written down in units of UTF-16 may hold the half of a surrogate
pair without the other one. It has a code point like any character, so it can be
kept and counted, but no text with one in it can be encoded.
-/

namespace GitPractice
namespace Text

/-- Whether the code point is the half of a surrogate pair. -/
def isHalf (n : Nat) : Bool := 0xd800 ≤ n && n < 0xe000

/-- The character with the code point. The replacement character stands for a half. -/
def charOfPoint (n : Nat) : Char := if isHalf n then '\ufffd' else Char.ofNat n

/-- A half, written by its number. -/
def escapedHalf (n : Nat) : List Char := '\\' :: 'u' :: hexDigits 4 n

/-- What is told about a text that cannot be encoded: where its first halves stand. -/
def encodingFailure (points : List Nat) : String :=
  let start := (points.takeWhile fun n => !isHalf n).length
  let halves := (points.drop start).takeWhile isHalf
  let which := match halves with
    | [n] => " '" ++ String.ofList (escapedHalf n) ++ "' in position " ++ toString start
    | halves => "s in position " ++ toString start ++ "-" ++ toString (start + halves.length - 1)
  "'utf-8' codec can't encode character" ++ which ++ ": surrogates not allowed"

end Text
end GitPractice
