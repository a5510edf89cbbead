import GitPractice.Timestamp

/-!
# Where ids and times come from

A session takes commit ids and the time from outside. Both are endless
sequences that are read from the front: the clock once for every event that is
dated, the ids until one is found that no commit has. The ids may repeat, and
may repeat the ids of commits that were there from the start, so the search is
bounded: it looks at one id more than there are commits, and at `patience` ids
beyond that. When none of them is new, no commit is made.
-/

namespace GitPractice

structure IdSource where
  nth : Nat → String
  /-- How many ids may be repeats of others before the search gives up. -/
  patience : Nat := 0

namespace IdSource

/-- The first of `count` ids from position `start` on that is not in `used`, with the position
after it. -/
def search (nth : Nat → String) (used : List String) : Nat → Nat → Option (String × Nat)
  | 0, _ => none
  | count + 1, start =>
    if used.contains (nth start) then search nth used count (start + 1)
    else some (nth start, start + 1)

/-- An id that is not in `used`, and the position after it. -/
def unused? (ids : IdSource) (used : List String) (start : Nat) : Option (String × Nat) :=
  search ids.nth used (ids.patience + used.length + 1) start

/-- The ids `c000001`, `c000002`, and so on. -/
def numbered (n : Nat) : String := "c" ++ counter (n + 1)
where
  /-- Six places, or more when the number needs them. -/
  counter (n : Nat) : String :=
    if n < 1000000 then Text.padded 6 n else toString n

/-- The given ids in order, then `later` from its beginning. -/
def ofList (given : List String) (later : Nat → String) : IdSource where
  nth n := if h : n < given.length then given[n] else later (n - given.length)
  patience := given.length

/-- An id that the search finds is new. -/
theorem not_mem_of_search {nth : Nat → String} {used : List String} {id : String} {stop : Nat} :
    ∀ {count start : Nat}, search nth used count start = some (id, stop) → id ∉ used := by
  intro count
  induction count with
  | zero => intro start h; simp [search] at h
  | succ count ih =>
    intro start h
    rw [search] at h
    split at h
    · exact ih h
    · next hn =>
      cases h
      simpa using hn

theorem unused?_not_mem {ids : IdSource} {used : List String} {start stop : Nat} {id : String}
    (h : ids.unused? used start = some (id, stop)) : id ∉ used :=
  not_mem_of_search h

end IdSource

/-- All that a session takes from outside. -/
structure Source where
  ids : IdSource
  clock : Nat → Timestamp

/-- A clock that shows the given times one after the other, and the last of them for ever. -/
def clockOfList (first : Timestamp) (rest : List Timestamp) (n : Nat) : Timestamp :=
  (first :: rest).getD n ((first :: rest).getLast (by simp))

end GitPractice
