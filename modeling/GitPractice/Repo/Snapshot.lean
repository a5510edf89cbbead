import GitPractice.Repo.Commit

/-!
# Snapshots

A snapshot is a whole practice repository at one moment. It is a plain value:
nothing ties its parts together, so look-ups take the first match and answer
`none` for what is missing. The parts agree only in snapshots that come about
by running commands.
-/

namespace GitPractice

structure Snapshot where
  initialized : Bool := false
  /-- In the order of creation. -/
  commits : List Commit := []
  branches : List Branch := []
  /-- The checked-out branch, `""` when there is none. -/
  currentBranch : String := ""
  /-- The commit that the next one builds on, `""` before the first. -/
  head : String := ""
  detached : Bool := false
  staged : List FileEntry := []
  working : List FileEntry := []
  history : List HistoryEntry := []
deriving DecidableEq, Inhabited

namespace Snapshot

/-- Before `git init`. -/
def empty : Snapshot := {}

def findBranch (s : Snapshot) (name : String) : Option Branch :=
  s.branches.find? (·.name = name)

def findCommit (s : Snapshot) (id : String) : Option Commit :=
  s.commits.find? (·.id = id)

/-- The oldest commit whose id begins with `start`, which must not be empty. -/
def resolve (s : Snapshot) (start : String) : Option Commit :=
  if start = "" then none else s.commits.find? (fun c => Text.startsWith c.id start)

def headCommit (s : Snapshot) : Option Commit :=
  if s.head = "" then none else s.findCommit s.head

def workingFile (s : Snapshot) (name : String) : Option FileEntry :=
  s.working.find? (·.name = name)

def stagedFile (s : Snapshot) (name : String) : Option FileEntry :=
  s.staged.find? (·.name = name)

/-- Whether the file is in the working directory or in the staging area. -/
def hasFile (s : Snapshot) (name : String) : Bool :=
  (s.workingFile name).isSome || (s.stagedFile name).isSome

def commitIds (s : Snapshot) : List String := s.commits.map (·.id)

/-- Whether the branch is the one that HEAD stands on. -/
def isCurrent (s : Snapshot) (b : Branch) : Bool :=
  b.name = s.currentBranch && !s.detached

def toValue (s : Snapshot) : Value :=
  .record [("initialized", .bool s.initialized), ("commits", .list (s.commits.map Commit.toValue)),
    ("branches", .list (s.branches.map Branch.toValue)), ("current_branch", .text s.currentBranch),
    ("head", .text s.head), ("detached_head", .bool s.detached),
    ("staged", .list (s.staged.map FileEntry.toValue)),
    ("working_dir", .list (s.working.map FileEntry.toValue)),
    ("command_history", .list (s.history.map HistoryEntry.toValue))]

/-- Follow first parents from `id` for at most the given number of steps. The walk stops at an
id that it has met already, and goes no further than an id that belongs to no commit. -/
def walkParents (s : Snapshot) : Nat → String → List String → List String
  | 0, _, met => met
  | steps + 1, id, met =>
    if id = "" || met.contains id then met
    else
      match (s.findCommit id).bind (·.parent) with
      | some parent => walkParents s steps parent (met ++ [id])
      | none => met ++ [id]

/-- The ids met on the walk along first parents, `id` first. Every step but the last finds
another commit, so one step more than there are commits is enough. -/
def reachableFrom (s : Snapshot) (id : String) : List String :=
  s.walkParents (s.commits.length + 1) id []

end Snapshot
end GitPractice
