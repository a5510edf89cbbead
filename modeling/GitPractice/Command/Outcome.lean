import GitPractice.Command.Basic
import GitPractice.Repo.Snapshot

/-!
# What a command answers

The answer to a command is put together from the snapshot before anything has
changed: the text to show, whether it reports a failure, at most one action to
apply, and whether the line enters the log. A failure never carries an action.
So `git commit` shows the HEAD that it builds on, and `git reset` the one that
it leaves.
-/

namespace GitPractice

structure Outcome where
  output : String := ""
  isError : Bool := false
  action : Option Action := none
  /-- Whether the line enters the log. -/
  recorded : Bool := true
deriving DecidableEq, Inhabited

namespace Outcome

def success (output : String) (action : Option Action := none) : Outcome :=
  { output, action }

def failure (output : String) : Outcome := { output, isError := true }

/-- What is shown when a line could not be dealt with at all. -/
def internalError : Outcome := failure "An error occurred while executing the command."

end Outcome

def helpText : String := "Available commands:
git init              - Initialize a new Git repository
git add <file>        - Add file to staging area
git add .             - Add all files to staging area
git commit -m \"msg\"   - Commit staged changes
git checkout <branch> - Switch branches
git checkout -b <br>  - Create and switch to new branch
git branch [name]     - List branches or create new branch
git merge <branch>    - Merge a branch
git status            - Show repository status
git log               - Show commit history
git reset --hard HEAD~1 - Reset to previous commit
touch <file>          - Create a new file
echo \"text\" > <file>  - Modify a file
clear                 - Clear terminal and reset
help                  - Show this help message"

namespace GitCommand

def notARepository : String :=
  "fatal: not a git repository (or any of the parent directories): .git"

def noCommitsYet : String := "fatal: your current branch does not have any commits yet"

def cleanTree : String := "nothing to commit, working tree clean"

def checkoutUsage : String := "usage: git checkout <branch> or git checkout -b <branch>"

def branchExists (name : String) : String :=
  "fatal: A branch named '" ++ name ++ "' already exists."

/-- What `git branch` answers without a name: one line a branch, the current one marked. -/
def branchLines (s : Snapshot) : List String :=
  (if s.detached then ["* (HEAD detached at " ++ shortId s.head ++ ")"] else []) ++
    s.branches.map fun b => (if s.isCurrent b then "* " else "  ") ++ b.name

/-- A section of `git status`: a blank line, the title, and a line for each file; nothing at all
when there are no files. -/
def statusSection (title : String) : List String → List String
  | [] => []
  | lines => "" :: title :: lines

def statusLines (s : Snapshot) : List String :=
  let modified := s.working.filter (·.status = .modified)
  let others := s.working.filter (·.status ≠ .modified)
  [if s.detached then "HEAD detached at " ++ shortId s.head else "On branch " ++ s.currentBranch] ++
    statusSection "Changes to be committed:" (s.staged.map fun f => "  " ++ f.status.name ++ ": " ++ f.name) ++
    statusSection "Changes not staged for commit:" (modified.map fun f => "  modified: " ++ f.name) ++
    statusSection "Untracked files:" (others.map fun f => "  " ++ f.name) ++
    (if s.staged.isEmpty && s.working.isEmpty then ["", cleanTree] else [])

/-- The block of one commit in `git log`. -/
def logEntry (c : Commit) : String :=
  "commit " ++ c.id ++ "\nAuthor: " ++ c.author ++ "\nDate: " ++ c.timestamp.logText ++ "\n\n    " ++
    c.message ++ "\n"

/-- The commits that `git log` lists, oldest first: all of them, or when HEAD is detached those on
the walk along first parents from HEAD. -/
def loggedCommits (s : Snapshot) : List Commit :=
  if s.detached then
    let reachable := s.reachableFrom s.head
    s.commits.filter (·.id ∈ reachable)
  else s.commits

def addOutcome (s : Snapshot) : Option String → Outcome
  | none => .failure "Nothing specified, nothing added.\nMaybe you wanted to say 'git add .'?"
  | some target =>
    if target = stageAll then
      if s.working.isEmpty then .success "No files to add."
      else
        .success ("Added " ++ toString s.working.length ++ " file(s) to staging area")
          (some (.stage [stageAll]))
    else if (s.workingFile target).isSome then
      .success ("Added '" ++ target ++ "' to staging area") (some (.stage [target]))
    else .failure ("pathspec '" ++ target ++ "' did not match any files")

def commitOutcome (s : Snapshot) (message : Option String) : Outcome :=
  if s.staged.isEmpty then .failure cleanTree
  else
    match message with
    | none => .failure "usage: git commit -m \"commit message\""
    | some message =>
      if message = "" then .failure "Aborting commit due to empty commit message."
      else
        .success ("[" ++ s.currentBranch ++ " " ++ shortId s.head ++ "] " ++ message ++ "\n " ++
            toString s.staged.length ++ " file(s) changed")
          (some (.commit message))

/-- A branch of that name goes before a commit whose id begins so. -/
def checkoutOutcome (s : Snapshot) : Option String → Outcome
  | none => .failure checkoutUsage
  | some target =>
    if (s.findBranch target).isSome then
      .success ("Switched to branch '" ++ target ++ "'") (some (.checkout target))
    else if (s.resolve target).isSome then
      .success ("Note: switching to '" ++ target ++ "'.\n\nYou are in 'detached HEAD' state.")
        (some (.checkoutCommit target))
    else .failure ("error: pathspec '" ++ target ++ "' did not match any file(s) known to git")

def checkoutNewOutcome (s : Snapshot) (name : String) : Outcome :=
  if (s.findBranch name).isSome then .failure (branchExists name)
  else .success ("Switched to a new branch '" ++ name ++ "'") (some (.createAndCheckoutBranch name))

def branchOutcome (s : Snapshot) : Option String → Outcome
  | none => .success (Text.join "\n" (branchLines s))
  | some name =>
    if (s.findBranch name).isSome then .failure (branchExists name)
    else .success ("Created branch '" ++ name ++ "'") (some (.createBranch name none))

def mergeOutcome (s : Snapshot) : Option String → Outcome
  | none => .failure "usage: git merge <branch>"
  | some name =>
    if name = s.currentBranch then .success ("Already on '" ++ name ++ "'")
    else if ((s.findBranch name).filter (·.commit ≠ "")).isNone then
      .failure ("merge: " ++ name ++ " - not something we can merge")
    else if s.head = "" then .failure noCommitsYet
    else .success "Merge made by the 'recursive' strategy." (some (.merge name))

def resetOutcome (s : Snapshot) (wellFormed : Bool) : Outcome :=
  if !wellFormed then .failure "usage: git reset --hard HEAD~1"
  else if s.commits.isEmpty then
    .failure ("fatal: ambiguous argument '" ++ resetTarget ++ "': unknown revision")
  else .success ("HEAD is now at " ++ shortId s.head) (some (.reset .hard resetTarget))

/-- The answer inside a repository. -/
def outcomeInside (s : Snapshot) : GitCommand → Outcome
  | missing => .failure "usage: git <command> [<args>]"
  | unrecognized word =>
    .failure ("git: '" ++ word ++ "' is not a git command. See 'git --help'.")
  | init => .success "Reinitialized existing Git repository in .git/"
  | add target => addOutcome s target
  | commit message => commitOutcome s message
  | checkout target => checkoutOutcome s target
  | checkoutNew name => checkoutNewOutcome s name
  | branch name => branchOutcome s name
  | merge name => mergeOutcome s name
  | status => .success (Text.join "\n" (statusLines s))
  | log =>
    if s.commits.isEmpty then .failure noCommitsYet
    else .success (Text.join "\n" ((loggedCommits s).reverse.map logEntry))
  | reset wellFormed => resetOutcome s wellFormed

/-- Outside a repository nothing but `git init` works. -/
def outcome (s : Snapshot) (command : GitCommand) : Outcome :=
  if s.initialized then outcomeInside s command
  else if command = init then
    .success "Initialized empty Git repository in .git/" (some .create)
  else .failure notARepository

end GitCommand

namespace Command

/-- Writing to a file that is staged changes nothing, as the staged entry keeps its status. -/
def writeOutcome (s : Snapshot) (name : String) : Outcome :=
  if (s.workingFile name).isSome then .success ("Modified file: " ++ name) (some (.modifyFile name))
  else if (s.stagedFile name).isSome then .success ("Modified file: " ++ name)
  else .success ("Created file: " ++ name) (some (.createFile name))

def outcome (s : Snapshot) : Command → Outcome
  | blank => { recorded := false }
  | git command => command.outcome s
  | touch none => .failure "usage: touch <filename>"
  | touch (some name) => .success ("Created file: " ++ name) (some (.createFile name))
  | write name => writeOutcome s name
  | echo text => .success text
  | clear => { action := some .resetAll, recorded := false }
  | help => .success helpText
  | unknown word =>
    .failure ("Command not found: " ++ word ++ ". Type 'help' for available commands.")

end Command

/-- The answer to a line in the given state. -/
def interpret (s : Snapshot) (line : String) : Outcome := (Command.parse line).outcome s

end GitPractice
