import GitPractice.Repo.Snapshot

/-!
# Status and history panels

What the panels beside the terminal show. The status panel sums up the
repository; before it is set up there is nothing to sum up. The history panel
shows the last entries of the log with their output cut short.
-/

namespace GitPractice

/-- The last `n` entries; none for a number that is not positive. -/
def lastEntries {α : Type} (n : Int) (xs : List α) : List α :=
  xs.drop (xs.length - n.toNat)

structure BranchRow where
  name : String
  color : String
  commit : String
  current : Bool
deriving DecidableEq, Inhabited

structure StatusPanel where
  initialized : Bool
  head : String := ""
  currentBranch : String := ""
  detached : Bool := false
  commitCount : Nat := 0
  staged : List FileEntry := []
  working : List FileEntry := []
  branches : List BranchRow := []
  /-- Newest first. -/
  recentCommits : List Commit := []
  clean : Bool := false
deriving DecidableEq, Inhabited

namespace StatusPanel

def branchRow (s : Snapshot) (b : Branch) : BranchRow :=
  { name := b.name, color := b.color, commit := shortId b.commit, current := s.isCurrent b }

def ofSnapshot (s : Snapshot) (recent : Int := 3) : StatusPanel :=
  if s.initialized then
    { initialized := true
      head := shortId s.head
      currentBranch := s.currentBranch
      detached := s.detached
      commitCount := s.commits.length
      staged := s.staged
      working := s.working
      branches := s.branches.map (branchRow s)
      recentCommits := (lastEntries recent s.commits).reverse
      clean := s.staged.isEmpty && s.working.isEmpty && !s.commits.isEmpty }
  else { initialized := false }

def toValue (p : StatusPanel) : Value :=
  .record [("initialized", .bool p.initialized), ("head", .text p.head),
    ("current_branch", .text p.currentBranch), ("detached_head", .bool p.detached),
    ("commit_count", .int p.commitCount), ("staged", .list (p.staged.map FileEntry.toValue)),
    ("working_dir", .list (p.working.map FileEntry.toValue)),
    ("branches", .list (p.branches.map fun b =>
      .record [("name", .text b.name), ("color", .text b.color), ("commit", .text b.commit),
        ("current", .bool b.current)])),
    ("recent_commits", .list (p.recentCommits.map Commit.toValue)), ("clean", .bool p.clean)]

end StatusPanel

/-- The first `limit` characters and an ellipsis; a limit that is not positive shortens nothing. -/
def preview (text : String) (limit : Int) : String :=
  if limit ≤ 0 ∨ (text.length : Int) ≤ limit then text
  else Text.take text limit.toNat ++ "..."

structure HistoryPanel where
  /-- Oldest first. -/
  rows : List HistoryEntry := []
  total : Nat := 0
deriving DecidableEq, Inhabited

namespace HistoryPanel

def ofSnapshot (s : Snapshot) (limit : Int := 10) (previewChars : Int := 100) : HistoryPanel where
  rows := (lastEntries limit s.history).map fun e => { e with output := preview e.output previewChars }
  total := s.history.length

/-- Whether older entries are hidden. -/
def truncated (p : HistoryPanel) : Bool := p.total > p.rows.length

def toValue (p : HistoryPanel) : Value :=
  .record [("rows", .list (p.rows.map HistoryEntry.toValue)), ("total", .int p.total),
    ("truncated", .bool p.truncated)]

end HistoryPanel

/-- The names that a prompt shows: who works where, and where a repository lives. -/
structure PromptNames where
  user : String := "user"
  host : String := "computer"
  repoHost : String := "repo"
deriving DecidableEq, Inhabited

/-- The prompt names the branch, or the commit when HEAD is detached. -/
def prompt (s : Snapshot) (names : PromptNames := {}) : String :=
  if !s.initialized then names.user ++ "@" ++ names.host ++ ":~$ "
  else if s.detached then names.user ++ "@" ++ names.repoHost ++ ":((" ++ shortId s.head ++ "))$ "
  else names.user ++ "@" ++ names.repoHost ++ ":(" ++ s.currentBranch ++ ")$ "

end GitPractice
