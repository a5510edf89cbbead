import GitPractice.Value.Real64

/-!
# How alike two texts are

The likeness of two texts is measured by what has to be deleted and inserted to
turn one into the other, which their longest common subsequence tells. A short
text is compared with every window of the longer one, so that a word counts as
found when it stands anywhere in a sentence.

The likeness is a percentage cut to an integer. It is worked out in three steps,
each rounded to 53 binary digits, and the rounding shows: a likeness of exactly
20 percent may come out as 19.
-/

namespace GitPractice
namespace Similarity

/-- The lengths for `c :: xs` against the ends of a text, the longest end first, from those for `xs`. -/
def nextRow (c : Char) : List Char → List Nat → List Nat
  | [], _ => [0]
  | d :: ys, row =>
    let ahead := row.tail
    let rest := nextRow c ys ahead
    (if c = d then ahead.headD 0 + 1 else max (row.headD 0) (rest.headD 0)) :: rest

/-- The lengths of the longest common subsequences of `xs` and the ends of `ys`. -/
def rows : List Char → List Char → List Nat
  | [], ys => List.replicate (ys.length + 1) 0
  | c :: xs, ys => nextRow c ys (rows xs ys)

/-- The length of the longest common subsequence. -/
def common (xs ys : List Char) : Nat := (rows xs ys).headD 0

/-- The fraction nearest to `num / den` that has 53 binary digits, as `m / 2 ^ k`. It is meant for
fractions up to a few hundred. -/
def nearest (num den : Nat) : Nat × Nat :=
  if num = 0 then (0, 0)
  else
    let t := 52 + Nat.log2 den - Nat.log2 num
    let k := if num * Real64.twoTo t < den * Real64.twoTo 52 then t + 1 else t
    (Real64.roundDiv (num * Real64.twoTo k) den, k)

/-- One less the fraction `edits / size`, in percent, rounded at every step and cut to an integer. -/
def percent (edits size : Nat) : Nat :=
  let (m, k) := nearest edits size
  let (m, k) := nearest (Real64.twoTo k - m) (Real64.twoTo k)
  let (m, k) := nearest (100 * m) (Real64.twoTo k)
  m / Real64.twoTo k

/-- The likeness of two texts that are not both empty. -/
def likeness (xs ys : List Char) : Nat :=
  let size := xs.length + ys.length
  percent (size - 2 * common xs ys) size

/-- What the longer text is compared with: its beginnings shorter than `size`, its parts of that
length, and its ends shorter than that. -/
def windows (size : Nat) (text : List Char) : List (List Char) :=
  (List.range size).map text.take ++
    (List.range text.length).map fun i => (text.drop i).take size

/-- The best likeness of `short` and a window of `long`. -/
def bestWindow (short long : List Char) : Nat :=
  ((windows short.length long).map (likeness short)).foldl max 0

/-- How well the shorter of two texts is found in the longer one. -/
def partialRatio (xs ys : List Char) : Nat :=
  if xs.isEmpty && ys.isEmpty then 100
  else if xs.isEmpty || ys.isEmpty then 0
  else if xs.length < ys.length then bestWindow xs ys
  else if ys.length < xs.length then bestWindow ys xs
  else max (bestWindow xs ys) (bestWindow ys xs)

end Similarity
end GitPractice
