import GitPractice.Value.Basic

/-!
# Values at several places

A list or record may stand at several places and be one and the same there. It is
then kept apart among the parts, and its number stands at those places. So a
change of it shows wherever it stands, and it may even stand inside itself.
-/

namespace GitPractice

/-- What is kept apart, by number. -/
abbrev Parts := Array Value

namespace Value

mutual

/-- The numbers that stand in a value. -/
def numbers : Value → List Nat
  | .shared n => [n]
  | .list items => numbersOfItems items
  | .pair first second => numbers first ++ numbers second
  | .record fields => numbersOfFields fields
  | .atom _ => []
  | .set _ => []
  | .recurrence _ => []

def numbersOfItems : List Value → List Nat
  | [] => []
  | v :: rest => numbers v ++ numbersOfItems rest

def numbersOfFields : List (Scalar × Value) → List Nat
  | [] => []
  | (_, v) :: rest => numbers v ++ numbersOfFields rest

end

end Value

namespace Parts

/-- What a number stands for. -/
def content (parts : Parts) (n : Nat) : Value := parts[n]?.getD .null

/-- The value itself where its number stands. -/
def head (parts : Parts) : Value → Value
  | .shared n => parts.content n
  | v => v

/-- A place inside of the part that stands there. -/
def recurrenceOf (parts : Parts) (n : Nat) : Value :=
  match parts.content n with
  | .record _ => .recurrence true
  | _ => .recurrence false

/-- What becomes of a number inside of certain parts: another value, or nothing if the part itself is put
there. -/
abbrev Choice := List Nat → Nat → Option Value

mutual

/-- Put parts in the places of their numbers, as long as that is chosen. `around` holds the parts around
the present place, and no more than `room` are put into each other. -/
def expand (parts : Parts) (choice : Choice) (room : Nat) (around : List Nat) : Value → Value
  | .shared n =>
    match choice around n, room with
    | some v, _ => v
    | none, 0 => parts.recurrenceOf n
    | none, room + 1 => expand parts choice room (n :: around) (parts.content n)
  | .list items => .list (expandItems parts choice room around items)
  | .pair first second => .pair (expand parts choice room around first) (expand parts choice room around second)
  | .record fields => .record (expandFields parts choice room around fields)
  | .atom a => .atom a
  | .set members => .set members
  | .recurrence isRecord => .recurrence isRecord
termination_by v => (room, sizeOf v)

def expandItems (parts : Parts) (choice : Choice) (room : Nat) (around : List Nat) : List Value → List Value
  | [] => []
  | v :: rest => expand parts choice room around v :: expandItems parts choice room around rest
termination_by items => (room, sizeOf items)

def expandFields (parts : Parts) (choice : Choice) (room : Nat) (around : List Nat) :
    List (Scalar × Value) → List (Scalar × Value)
  | [] => []
  | (k, v) :: rest => (k, expand parts choice room around v) :: expandFields parts choice room around rest
termination_by fields => (room, sizeOf fields)

end

/-- A value with everything in its place. Where a part would stand inside itself it only recurs. -/
def unfold (parts : Parts) (v : Value) : Value :=
  if parts.isEmpty then v
  else
    expand parts (fun around n => if around.contains n then some (parts.recurrenceOf n) else none)
      parts.size [] v

end Parts

/-- A value with its parts. -/
structure Whole where
  value : Value
  parts : Parts := #[]
deriving Inhabited

namespace Whole

/-- The value itself. -/
def head (w : Whole) : Value := w.parts.head w.value

/-- At how many places every part stands. -/
def counts (w : Whole) : Array Nat :=
  let add (counts : Array Nat) (v : Value) : Array Nat := v.numbers.foldl (fun c n => c.modify n (· + 1)) counts
  w.parts.foldl add (add (Array.replicate w.parts.size 0) w.value)

/-- Put everything in its place that stands at one place only, and not inside of something that stands at
several. That would then stand at several places as well if what is around it were copied. -/
def simplified (w : Whole) : Whole :=
  let counts := w.counts
  let isShared (n : Nat) : Bool := 1 < counts.getD n 0
  { value := w.parts.expand (fun _ n => if isShared n then some (.shared n) else none) w.parts.size [] w.value
    parts := if counts.any (1 < ·) then w.parts else #[] }

end Whole
end GitPractice
