/-!
# Suggestions for mistyped names

A name that is not known may be a known one mistyped. Two names are compared by
the letters that they have in common in blocks: the longest block first, then the
longest ones on either side of it. A known name is suggested if at least three
fifths of the letters of both are in such blocks; the three closest are named.
-/

namespace GitPractice
namespace Suggestion

/-- The length of the beginning that two texts share. -/
def commonStart : List Char → List Char → Nat
  | c :: cs, d :: ds => if c = d then commonStart cs ds + 1 else 0
  | _, _ => 0

/-- A part that two texts have in common, by where it begins in each. -/
structure Block where
  first : Nat
  second : Nat
  size : Nat
deriving DecidableEq

/-- The longest block; of several the one that begins first in the first text, and then in the second. -/
def longest (xs ys : List Char) : Block :=
  (List.range xs.length).foldl (fun best i =>
    (List.range ys.length).foldl (fun best j =>
      let size := commonStart (xs.drop i) (ys.drop j)
      if best.size < size then { first := i, second := j, size } else best) best)
    { first := 0, second := 0, size := 0 }

/-- The letters in blocks. Each block takes letters of the first text, so their number bounds the
depth. -/
def matched : Nat → List Char → List Char → Nat
  | 0, _, _ => 0
  | fuel + 1, xs, ys =>
    let b := longest xs ys
    if b.size = 0 then 0
    else
      matched fuel (xs.take b.first) (ys.take b.second) + b.size +
        matched fuel (xs.drop (b.first + b.size)) (ys.drop (b.second + b.size))

/-- A known name with the letters that it has in blocks, and the letters of both names. -/
structure Candidate where
  name : String
  inBlocks : Nat
  letters : Nat

namespace Candidate

def of (word name : String) : Candidate where
  name := name
  inBlocks := matched name.length name.toList word.toList
  letters := name.length + word.length

def isClose (c : Candidate) : Bool := 3 * c.letters ≤ 10 * c.inBlocks

/-- Whether `c` is at least as close as `d`, where the later name wins a tie. -/
def isCloser (c d : Candidate) : Bool :=
  let left := c.inBlocks * d.letters
  let right := d.inBlocks * c.letters
  right < left || (left = right && decide (d.name ≤ c.name))

end Candidate

/-- The most names that are suggested. -/
def maxCount : Nat := 3

/-- The known names that are close to a word, in order. -/
def near (known : List String) (word : String) : List String :=
  let close := (known.map (Candidate.of word)).filter (·.isClose)
  (((close.mergeSort Candidate.isCloser).take maxCount).map (·.name)).mergeSort fun a b => decide (a ≤ b)

end Suggestion
end GitPractice
