import GitPractice.Value.Basic

/-!
# The order of a set

A set of numbers does not keep the order in which it was written. Each number
falls to a place by its residue, so that equal numbers fall to one place however
they are written, and the members stand in the order of their places. Any other
set is kept as written.
-/

namespace GitPractice
namespace Yaml
namespace Members

/-- The modulus of the residues. -/
def modulus : Nat := Real64.twoTo 61 - 1

/-- A residue with the sign of its number; minus one is not used. -/
def signed (negative : Bool) (residue : Nat) : Int :=
  if !negative then residue else if residue = 1 then -2 else -residue

/-- The residue of a number. Two to the power of 61 is one, which makes a fraction of a real a whole
number. -/
def residue? : Scalar → Option Int
  | .bool b => some (if b then 1 else 0)
  | .int n => some (signed (n < 0) (n.natAbs % modulus))
  | .real x =>
    if x.isNaN then none
    else if x.isInfinite then some (signed x.signBit 314159)
    else some (signed x.signBit (x.significand * Real64.twoTo (x.scale % 61).toNat % modulus))
  | _ => none

/-- How many places there are: a power of two, and for five members or more one above twice their
number. -/
def room (count : Nat) : Nat := if count < 5 then 8 else 2 * Real64.twoTo (Nat.log2 (2 * count))

/-- The free place nearest to where a number falls: this one, the nine behind it if there are as many,
and then the same from another place, for which the rest of the residue counts as long as there is one. -/
def placeOf (isFree : Nat → Bool) (size : Nat) : Nat → Nat → Nat → Nat
  | 0, _, place => place
  | steps + 1, rest, place =>
    let near := if place + 9 < size then 10 else 1
    match (List.range near).find? fun i => isFree (place + i) with
    | some i => place + i
    | none =>
      let rest := rest / 32
      placeOf isFree size steps rest ((5 * place + 1 + rest) % size)

/-- Put a number to a free place. The rest of a residue of 64 bits is used up after 13 steps, and then
all places come in turn. -/
def put (table : Array (Option Scalar)) (member : Scalar) (residue : Int) : Array (Option Scalar) :=
  let start := (residue % (Real64.twoTo 64 : Nat)).toNat
  let isFree n := (table.getD n none).isNone
  let place := placeOf isFree table.size (table.size + 13) start (start % table.size)
  table.setIfInBounds place (some member)

/-- The members of a set in their order. -/
def ordered (members : List Scalar) : List Scalar :=
  match members.mapM residue? with
  | none => members
  | some residues =>
    let table := (members.zip residues).foldl (fun table (member, residue) => put table member residue)
      (Array.replicate (room members.length) none)
    table.toList.filterMap id

end Members
end Yaml
end GitPractice
