/-!
# Ranges of characters

A property of characters that follows no simple rule is a list of ranges of code
points, both ends included, in rising order.
-/

namespace GitPractice
namespace Text

/-- Whether `n` lies in one of the ranges, which rise. -/
def inRanges : List (Nat × Nat) → Nat → Bool
  | [], _ => false
  | (low, high) :: rest, n => if n ≤ high then low ≤ n else inRanges rest n

end Text
end GitPractice
