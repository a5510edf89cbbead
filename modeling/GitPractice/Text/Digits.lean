/-!
# Decimal digits

Numbers are written and read in decimal, either with a fixed number of places
(dates) or with as many as they need (`toString`). The fixed form is defined by
recursion on the number of places, last digit outermost, which makes it
injective below the matching power of ten.
-/

namespace GitPractice
namespace Text

/-- The power `10 ^ n`. -/
def tenTo (n : Nat) : Nat := Nat.pow 10 n

/-- The digit character of `n % 10`. -/
def digitChar (n : Nat) : Char :=
  match n % 10 with
  | 0 => '0' | 1 => '1' | 2 => '2' | 3 => '3' | 4 => '4'
  | 5 => '5' | 6 => '6' | 7 => '7' | 8 => '8' | _ => '9'

/-- The value of an ASCII digit. -/
def digitValue? (c : Char) : Option Nat :=
  if '0' ≤ c && c ≤ '9' then some (c.toNat - '0'.toNat) else none

/-- The last `width` decimal places of `n`, with leading zeros. -/
def fixedDigits : Nat → Nat → List Char
  | 0, _ => []
  | width + 1, n => fixedDigits width (n / 10) ++ [digitChar n]

/-- The number `n` in `width` places. -/
def padded (width n : Nat) : String := String.ofList (fixedDigits width n)

/-- Read exactly `width` digits, adding them to the value `acc` of those before. -/
def readFixed? : Nat → Nat → List Char → Option (Nat × List Char)
  | 0, acc, cs => some (acc, cs)
  | _ + 1, _, [] => none
  | width + 1, acc, c :: cs =>
    match digitValue? c with
    | some d => readFixed? width (10 * acc + d) cs
    | none => none

/-- Read all digits at the front; their value and number come with the rest. -/
def readDigits : Nat → Nat → List Char → Nat × Nat × List Char
  | acc, count, [] => (acc, count, [])
  | acc, count, c :: cs =>
    match digitValue? c with
    | some d => readDigits (10 * acc + d) (count + 1) cs
    | none => (acc, count, c :: cs)

theorem length_fixedDigits (width n : Nat) : (fixedDigits width n).length = width := by
  induction width generalizing n with
  | zero => rfl
  | succ w ih => simp [fixedDigits, ih]

end Text
end GitPractice
