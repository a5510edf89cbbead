import GitPractice.Command.Outcome
import GitPractice.Repo.Source
import GitPractice.Repo.Transition

/-!
# Sessions

A session owns one snapshot and knows how far it has read the ids and the clock
of its source. A line is answered from the snapshot, the action of the answer is
applied once, and then the line enters the log; so an action is dated before
the log entry of its line.
-/

namespace GitPractice

structure Session where
  snapshot : Snapshot := .empty
  /-- How many ids have been taken from the source. -/
  idsTaken : Nat := 0
  /-- How often the clock has been read. -/
  clockReads : Nat := 0
deriving DecidableEq, Inhabited

namespace Session

/-- Apply one action. A commit takes the first new id of the source, and is not made when the source
has none. -/
def dispatch (source : Source) (t : Session) (a : Action) : Session :=
  let now := source.clock t.clockReads
  if t.snapshot.createsCommit a then
    match source.ids.unused? t.snapshot.commitIds t.idsTaken with
    | some (id, taken) =>
      { snapshot := t.snapshot.apply id now a, idsTaken := taken, clockReads := t.clockReads + 1 }
    | none => t
  else
    match a with
    | .record command output isError =>
      { t with
        snapshot := t.snapshot.record now command output isError
        clockReads := t.clockReads + 1 }
    | a => { t with snapshot := t.snapshot.apply "" now a }

/-- Carry out the answer to a line: its action first, then the log entry, in which the line stands
without the blanks around it. -/
def conclude (source : Source) (t : Session) (line : String) (answer : Outcome) : Session :=
  let t := match answer.action with
    | some a => t.dispatch source a
    | none => t
  if answer.recorded then t.dispatch source (.record (Text.strip line) answer.output answer.isError)
  else t

/-- The answer to a line in the present state. -/
def interpret (t : Session) (line : String) : Outcome := GitPractice.interpret t.snapshot line

/-- Run one line. -/
def run (source : Source) (t : Session) (line : String) : Session :=
  t.conclude source line (t.interpret line)

/-- Run lines one after the other. -/
def runAll (source : Source) (t : Session) (lines : List String) : Session :=
  lines.foldl (run source) t

/-- The answers that the lines get on the way. -/
def answers (source : Source) : Session → List String → List Outcome
  | _, [] => []
  | t, line :: lines => t.interpret line :: answers source (t.run source line) lines

/-- Discard everything; ids and clock go on from where they are. -/
def reset (source : Source) (t : Session) : Session := t.dispatch source .resetAll

theorem runAll_append (source : Source) (t : Session) (lines more : List String) :
    t.runAll source (lines ++ more) = (t.runAll source lines).runAll source more := by
  simp [runAll]

theorem length_answers (source : Source) (t : Session) (lines : List String) :
    (answers source t lines).length = lines.length := by
  induction lines generalizing t with
  | nil => rfl
  | cons line lines ih => simp [answers, ih]

end Session
end GitPractice
