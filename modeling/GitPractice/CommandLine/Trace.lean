import GitPractice.Session
import GitPractice.Settings.File

/-!
# Traces

What a session does about a line can be reported step by step: how the line was
read, which commit was made, and what came of it.
-/

namespace GitPractice

namespace Command

/-- The family of a command, by its first word. -/
def familyName : Command → String
  | blank => "UNKNOWN"
  | git _ => "GIT"
  | touch _ => "TOUCH"
  | write _ => "ECHO"
  | echo _ => "ECHO"
  | clear => "CLEAR"
  | help => "HELP"
  | unknown _ => "UNKNOWN"

end Command

namespace GitCommand

/-- The name of a command, by the word behind `git`. -/
def kindName : GitCommand → String
  | missing => "UNRECOGNIZED"
  | unrecognized _ => "UNRECOGNIZED"
  | init => "INIT"
  | add _ => "ADD"
  | commit _ => "COMMIT"
  | checkout _ => "CHECKOUT"
  | checkoutNew _ => "CHECKOUT"
  | branch _ => "BRANCH"
  | merge _ => "MERGE"
  | status => "STATUS"
  | log => "LOG"
  | reset _ => "RESET"

end GitCommand

namespace Trace

/-- A text to report, with the part of the program that it is about. -/
structure Entry where
  origin : Settings.Origin
  message : String
deriving DecidableEq

/-- Texts as a tuple, which has a comma even behind a single one. -/
def tuple (items : List String) : String :=
  match items with
  | [item] => "(" ++ Text.quoted item ++ ",)"
  | items => "(" ++ Text.join ", " (items.map Text.quoted) ++ ")"

def truth (b : Bool) : String := if b then "True" else "False"

/-- An action with its arguments. -/
def actionText : Action → String
  | .create => "Initialize()"
  | .createFile name => "CreateFile(name=" ++ Text.quoted name ++ ")"
  | .modifyFile name => "ModifyFile(name=" ++ Text.quoted name ++ ")"
  | .stage names => "Stage(names=" ++ tuple names ++ ")"
  | .commit message => "Commit(message=" ++ Text.quoted message ++ ")"
  | .checkout branch => "Checkout(branch=" ++ Text.quoted branch ++ ")"
  | .checkoutCommit start => "CheckoutCommit(commit_prefix=" ++ Text.quoted start ++ ")"
  | .createBranch name source =>
    "CreateBranch(name=" ++ Text.quoted name ++ ", from_commit=" ++
      (source.map Text.quoted).getD "None" ++ ")"
  | .createAndCheckoutBranch name => "CreateAndCheckoutBranch(name=" ++ Text.quoted name ++ ")"
  | .merge branch => "Merge(branch=" ++ Text.quoted branch ++ ")"
  | .reset mode target =>
    "Reset(mode=" ++ Text.quoted mode.name ++ ", target=" ++ Text.quoted target ++ ")"
  | .record command output isError =>
    "RecordHistory(command=" ++ Text.quoted command ++ ", output=" ++ Text.quoted output ++
      ", error=" ++ truth isError ++ ")"
  | .resetAll => "ResetAll()"

/-- The origin of a report on the practice repository. -/
def service (part operation : String) (line : Nat) : Settings.Origin :=
  { logger := "gitsim.services." ++ part, part, operation, line }

/-- How the line was read. -/
def reading (line : String) : List Entry :=
  match Text.words line with
  | [] => []
  | words =>
    [{ origin := service "interpreter" "execute" 167
       message := "Interpreting " ++ (Command.ofWords words).familyName ++ ": [" ++
         Text.join ", " (words.map Text.quoted) ++ "]" }]

/-- The commits that are new in a later snapshot. -/
def commits (before after : Snapshot) : List Entry :=
  (after.commits.drop before.commits.length).map fun c =>
    match c.isMerge, c.parents with
    | true, some [first, second] =>
      { origin := service "store" "_merge" 238
        message := "Created merge commit " ++ c.id ++ " (" ++ first ++ " + " ++ second ++ ")" }
    | _, _ =>
      { origin := service "store" "_commit" 172
        message := "Created commit " ++ c.id ++ " on '" ++ c.branch ++ "'" }

/-- All that is reported about running a line. -/
def ofLine (source : Source) (t : Session) (line : String) : List Entry :=
  let answer := t.interpret line
  reading line ++ commits t.snapshot (t.run source line).snapshot ++
    [{ origin := service "session" "run" 83
       message := Text.quoted (Text.strip line) ++ " -> error=" ++ truth answer.isError ++ " action=" ++
         (answer.action.map actionText).getD "None" }]

end Trace
end GitPractice
