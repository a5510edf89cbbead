import GitPractice.Text.Blank
import GitPractice.Text.Digits
import GitPractice.Text.Ranges

/-!
# Integers in text

Unicode has decimal digits in many scripts, and further characters that are
digits without being used to write numbers, such as the raised ones. An integer
may be written in any of the decimal digits, with a sign, and with single
underscores between digits.
-/

namespace GitPractice
namespace Text

/-- The zeros of the scripts; the digits from one to nine follow each. -/
def decimalZeros : List Nat :=
  [0x30, 0x660, 0x6f0, 0x7c0, 0x966, 0x9e6, 0xa66, 0xae6, 0xb66, 0xbe6, 0xc66, 0xce6, 0xd66,
   0xde6, 0xe50, 0xed0, 0xf20, 0x1040, 0x1090, 0x17e0, 0x1810, 0x1946, 0x19d0, 0x1a80, 0x1a90,
   0x1b50, 0x1bb0, 0x1c40, 0x1c50, 0xa620, 0xa8d0, 0xa900, 0xa9d0, 0xa9f0, 0xaa50, 0xabf0,
   0xff10, 0x104a0, 0x10d30, 0x11066, 0x110f0, 0x11136, 0x111d0, 0x112f0, 0x11450, 0x114d0,
   0x11650, 0x116c0, 0x11730, 0x118e0, 0x11950, 0x11c50, 0x11d50, 0x11da0, 0x16a60, 0x16ac0,
   0x16b50, 0x1d7ce, 0x1d7d8, 0x1d7e2, 0x1d7ec, 0x1d7f6, 0x1e140, 0x1e2f0, 0x1e950, 0x1fbf0]

/-- Digits that no number is written in. -/
def otherDigitRanges : List (Nat × Nat) :=
  [(0xb2, 0xb3), (0xb9, 0xb9), (0x1369, 0x1371), (0x19da, 0x19da), (0x2070, 0x2070),
   (0x2074, 0x2079), (0x2080, 0x2089), (0x2460, 0x2468), (0x2474, 0x247c), (0x2488, 0x2490),
   (0x24ea, 0x24ea), (0x24f5, 0x24fd), (0x24ff, 0x24ff), (0x2776, 0x277e), (0x2780, 0x2788),
   (0x278a, 0x2792), (0x10a40, 0x10a43), (0x10e60, 0x10e68), (0x11052, 0x1105a),
   (0x1f100, 0x1f10a)]

/-- The value of a decimal digit of any script. -/
def decimalValue? (c : Char) : Option Nat :=
  (decimalZeros.find? fun start => start ≤ c.toNat && c.toNat < start + 10).map (c.toNat - ·)

/-- Whether the character counts as a digit, be it one of a number or not. -/
def isDigit (c : Char) : Bool := (decimalValue? c).isSome || inRanges otherDigitRanges c.toNat

/-- More digits than these are not read. -/
def maxIntegerDigits : Nat := 4300

/-- Read decimal digits with single underscores between them, to the end. The flag tells whether a
digit stands just before; the value and the number of digits so far are carried along. -/
def readGrouped (value count : Nat) : Bool → List Char → Option (Nat × Nat)
  | afterDigit, [] => if afterDigit then some (value, count) else none
  | afterDigit, c :: cs =>
    if c = '_' then if afterDigit then readGrouped value count false cs else none
    else
      match decimalValue? c with
      | some d => readGrouped (10 * value + d) (count + 1) true cs
      | none => none

/-- Why a text is not read as an integer. -/
inductive IntegerError where
  | malformed
  | tooLong (digits : Nat)
deriving DecidableEq

def checkLength (negative : Bool) : Option (Nat × Nat) → Except IntegerError Int
  | none => .error .malformed
  | some (value, count) =>
    if maxIntegerDigits < count then .error (.tooLong count)
    else .ok (if negative then -(value : Int) else value)

/-- Read an integer; blanks around it do not count. -/
def readInteger (s : String) : Except IntegerError Int :=
  match stripChars s.toList with
  | '-' :: cs => checkLength true (readGrouped 0 0 false cs)
  | '+' :: cs => checkLength false (readGrouped 0 0 false cs)
  | cs => checkLength false (readGrouped 0 0 false cs)

end Text
end GitPractice
