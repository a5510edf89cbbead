/-!
# Actions

The closed vocabulary of changes to a repository. An action carries names and
texts only; whether it fits the state is decided where it is applied.
-/

namespace GitPractice

/-- How much a reset discards. Only `hard` empties the staging area and the
working directory; names other than the three known ones are kept as given. -/
inductive ResetMode where
  | soft | mixed | hard
  | other (name : String)
deriving DecidableEq, Inhabited

namespace ResetMode

def name : ResetMode → String
  | soft => "soft"
  | mixed => "mixed"
  | hard => "hard"
  | other name => name

def ofName (s : String) : ResetMode :=
  if s = "soft" then soft
  else if s = "mixed" then mixed
  else if s = "hard" then hard
  else other s

theorem name_ofName (s : String) : (ofName s).name = s := by
  unfold ofName
  split
  · simp [name, *]
  · split
    · simp [name, *]
    · split <;> simp [name, *]

end ResetMode

/-- The name that stands for every file of the working directory. -/
def stageAll : String := "."

/-- The only commit that a reset goes back to. -/
def resetTarget : String := "HEAD~1"

inductive Action where
  /-- Set up the repository. -/
  | create
  | createFile (name : String)
  | modifyFile (name : String)
  | stage (names : List String)
  | commit (message : String)
  | checkout (branch : String)
  | checkoutCommit (start : String)
  | createBranch (name : String) (source : Option String)
  /-- Create a branch and check it out, as one change. -/
  | createAndCheckoutBranch (name : String)
  | merge (branch : String)
  | reset (mode : ResetMode) (target : String)
  | record (command output : String) (isError : Bool)
  /-- Discard everything. -/
  | resetAll
deriving DecidableEq, Inhabited

end GitPractice
