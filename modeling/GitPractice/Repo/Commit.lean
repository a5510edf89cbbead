import GitPractice.Text.Blank
import GitPractice.Timestamp
import GitPractice.Value.Basic

/-!
# Commits, branches and files

The entities of a practice repository. Commit ids are opaque texts, of which
the first seven characters are shown. A pointer to a commit is a text too, and
`""` is the pointer that points nowhere yet; a commit's own parent is an
`Option`, since a root commit says that it has none.
-/

namespace GitPractice

inductive FileStatus where
  | untracked | added | modified | deleted
deriving DecidableEq, Repr, Inhabited

namespace FileStatus

def name : FileStatus → String
  | untracked => "untracked"
  | added => "added"
  | modified => "modified"
  | deleted => "deleted"

def ofName? (s : String) : Option FileStatus :=
  [untracked, added, modified, deleted].find? (·.name == s)

end FileStatus

/-- A file of the working directory or of the staging area. -/
structure FileEntry where
  name : String
  status : FileStatus := .untracked
deriving DecidableEq, Inhabited

structure Commit where
  id : String
  message : String
  author : String
  timestamp : Timestamp
  /-- The branch it was made on, `""` when HEAD was on none. -/
  branch : String
  parent : Option String := none
  /-- Both parents of a merge, the checked-out side first. -/
  parents : Option (List String) := none
  isMerge : Bool := false
deriving DecidableEq, Inhabited

/-- A name that follows a line of commits; `commit` is `""` before the first one. -/
structure Branch where
  name : String
  commit : String := ""
  color : String
deriving DecidableEq, Inhabited

/-- A typed line with what was answered. -/
structure HistoryEntry where
  command : String
  output : String
  isError : Bool
  timestamp : Timestamp
deriving DecidableEq, Inhabited

/-- The name under which every commit is made. -/
def defaultAuthor : String := "User"

def defaultBranch : String := "main"

/-- The file that a new repository starts with. -/
def placeholderFile : String := "README.md"

def shortIdLength : Nat := 7

/-- As much of a commit id as is shown. -/
def shortId (id : String) : String := Text.take id shortIdLength

/-- Green, blue, amber, red, violet, cyan, orange, pink. -/
def branchColors : List String :=
  ["#10B981", "#3B82F6", "#F59E0B", "#EF4444", "#8B5CF6", "#06B6D4", "#F97316", "#EC4899"]

/-- The colour of the branch made when `index` others existed; the palette repeats, also
below zero. -/
def branchColor (index : Int) : String :=
  branchColors.getD (index % 8).toNat ""

namespace FileEntry

def toValue (f : FileEntry) : Value :=
  .record [("name", .text f.name), ("status", .text f.status.name)]

end FileEntry

namespace Commit

def short (c : Commit) : String := shortId c.id

/-- The commit in one line. -/
def summary (c : Commit) : String := c.short ++ " " ++ c.message

def toValue (c : Commit) : Value :=
  let common : Fields :=
    [("id", .text c.id), ("message", .text c.message), ("author", .text c.author),
      ("timestamp", .text c.timestamp.isoText), ("branch", .text c.branch),
      ("parent", .ofText? c.parent), ("is_merge", .bool c.isMerge)]
  let parents : Fields :=
    match c.parents with
    | some ids => [("parents", .list (ids.map .text))]
    | none => []
  .record (common ++ parents)

end Commit

namespace Branch

def toValue (b : Branch) : Value :=
  .record [("name", .text b.name), ("commit", .text b.commit), ("color", .text b.color)]

end Branch

namespace HistoryEntry

def toValue (h : HistoryEntry) : Value :=
  .record [("command", .text h.command), ("output", .text h.output), ("error", .bool h.isError),
    ("timestamp", .text h.timestamp.isoText)]

end HistoryEntry
end GitPractice
