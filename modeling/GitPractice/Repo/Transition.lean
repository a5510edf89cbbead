import GitPractice.Repo.Action
import GitPractice.Repo.Snapshot

/-!
# What an action does to a snapshot

Every action has a transition, a total function on snapshots. An action that
does not fit the state leaves the snapshot as it is, so whoever wants to say
why nothing happened has to look before. The id of a new commit and the time
are arguments here; `Source` says where they are taken from.
-/

namespace GitPractice
namespace Snapshot

/-- The branches after the pointer of the current one has moved. -/
def moveCurrent (s : Snapshot) (id : String) : List Branch :=
  s.branches.map fun b => if b.name = s.currentBranch then { b with commit := id } else b

/-- Start over with one branch and one file. Commits and staged files are kept, of which there are
none unless the repository was set up before. -/
def create (s : Snapshot) : Snapshot :=
  { s with
    initialized := true
    currentBranch := defaultBranch
    branches := [{ name := defaultBranch, color := branchColor 0 }]
    working := [{ name := placeholderFile }]
    detached := false }

/-- Staged names count too, so that a file is never in both collections. -/
def createFile (s : Snapshot) (name : String) : Snapshot :=
  if s.hasFile name then s else { s with working := s.working ++ [{ name }] }

def modifyFile (s : Snapshot) (name : String) : Snapshot :=
  { s with working := s.working.map fun f => if f.name = name then { f with status := .modified } else f }

/-- What a working file becomes when it is staged. -/
def stagedForm (f : FileEntry) : FileEntry :=
  if f.status = .untracked then { f with status := .added } else f

/-- The working names that are meant by `names`, each once. -/
def namesToStage (s : Snapshot) (names : List String) : List String :=
  if stageAll ∈ names then (s.working.map (·.name)).eraseDups
  else (names.filter fun n => (s.workingFile n).isSome).eraseDups

/-- Move files to the end of the staging area, in the order named. An entry staged before under
the same name gives way, and so does every further working entry of that name. -/
def stage (s : Snapshot) (names : List String) : Snapshot :=
  let moving := s.namesToStage names
  { s with
    staged := s.staged.filter (fun f => f.name ∉ moving) ++
      (moving.filterMap s.workingFile).map stagedForm
    working := s.working.filter (fun f => f.name ∉ moving) }

/-- Commit what is staged on top of HEAD. HEAD is attached afterwards, but to no branch if it stood
on none. -/
def commit (s : Snapshot) (id : String) (now : Timestamp) (message : String) : Snapshot :=
  if s.staged = [] then s
  else
    let new : Commit :=
      { id, message, author := defaultAuthor, timestamp := now, branch := s.currentBranch
        parent := if s.head = "" then none else some s.head }
    { s with
      commits := s.commits ++ [new]
      head := id
      staged := []
      detached := false
      branches := s.moveCurrent id }

def checkout (s : Snapshot) (name : String) : Snapshot :=
  match s.findBranch name with
  | some b => { s with currentBranch := b.name, head := b.commit, detached := false }
  | none => s

def checkoutCommit (s : Snapshot) (start : String) : Snapshot :=
  match s.resolve start with
  | some c => { s with head := c.id, detached := true, currentBranch := "" }
  | none => s

/-- Add a branch at `source`, or at HEAD when no commit is given. -/
def createBranch (s : Snapshot) (name : String) (source : Option String) : Snapshot :=
  match s.findBranch name with
  | some _ => s
  | none =>
    let commit := if source.getD "" = "" then s.head else source.getD ""
    { s with branches := s.branches ++ [{ name, commit, color := branchColor s.branches.length }] }

def createAndCheckoutBranch (s : Snapshot) (name : String) : Snapshot :=
  match s.findBranch name with
  | some _ => s
  | none => (s.createBranch name none).checkout name

/-- The branch that can be merged under this name: another one than the current, and both sides have
a commit, since a merge would otherwise lack a parent. -/
def mergeSource (s : Snapshot) (name : String) : Option Branch :=
  (s.findBranch name).filter fun b => b.name ≠ s.currentBranch && b.commit ≠ "" && s.head ≠ ""

def merge (s : Snapshot) (id : String) (now : Timestamp) (name : String) : Snapshot :=
  match s.mergeSource name with
  | none => s
  | some source =>
    let new : Commit :=
      { id, message := "Merge branch '" ++ source.name ++ "' into " ++ s.currentBranch
        author := defaultAuthor, timestamp := now, branch := s.currentBranch
        parent := some s.head, parents := some [s.head, source.commit], isMerge := true }
    { s with commits := s.commits ++ [new], head := id, branches := s.moveCurrent id }

/-- The commit that a reset goes back to. -/
def resetParent (s : Snapshot) : Option String :=
  (s.headCommit.bind (·.parent)).filter (· ≠ "")

def reset (s : Snapshot) (mode : ResetMode) (target : String) : Snapshot :=
  if target ≠ resetTarget then s
  else
    match s.resetParent with
    | none => s
    | some parent =>
      { s with
        head := parent
        branches := s.moveCurrent parent
        staged := if mode = .hard then [] else s.staged
        working := if mode = .hard then [] else s.working }

def record (s : Snapshot) (now : Timestamp) (command output : String) (isError : Bool) : Snapshot :=
  { s with history := s.history ++ [{ command, output, isError, timestamp := now }] }

/-- One transition. `id` is the id of the commit that it may make, `now` the time of the commit or
of the log entry. -/
def apply (s : Snapshot) (id : String) (now : Timestamp) : Action → Snapshot
  | .create => s.create
  | .createFile name => s.createFile name
  | .modifyFile name => s.modifyFile name
  | .stage names => s.stage names
  | .commit message => s.commit id now message
  | .checkout branch => s.checkout branch
  | .checkoutCommit start => s.checkoutCommit start
  | .createBranch name source => s.createBranch name source
  | .createAndCheckoutBranch name => s.createAndCheckoutBranch name
  | .merge branch => s.merge id now branch
  | .reset mode target => s.reset mode target
  | .record command output isError => s.record now command output isError
  | .resetAll => empty

/-- Whether the action makes a commit in this state. -/
def createsCommit (s : Snapshot) : Action → Bool
  | .commit _ => !s.staged.isEmpty
  | .merge branch => (s.mergeSource branch).isSome
  | _ => false

end Snapshot
end GitPractice
