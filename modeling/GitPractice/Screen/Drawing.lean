import GitPractice.Command.Outcome
import GitPractice.Fault
import GitPractice.Screen.Table
import GitPractice.Topic.Catalog
import GitPractice.View.Graph
import GitPractice.View.Panel

/-!
# Drawing the views

Every view is printed in a few steps, each of which prints a whole number of
lines or fails. What users type is mostly put into tables as it is; names of
files, ids of commits and texts of topics are read as markup, so a file name can
make the table that lists it fail. All of it depends on the terminal.
-/

namespace GitPractice
namespace Screen

/-- The steps of a drawing. -/
abbrev Drawing := List (Except Fault String)

/-- What the steps print, up to the first one that fails. -/
def Drawing.print : Drawing → String × Option Fault
  | [] => ("", none)
  | .ok text :: rest =>
    let (more, fault) := Drawing.print rest
    (text ++ more, fault)
  | .error fault :: _ => ("", some fault)

/-- A text as it is, in the style that is named. -/
def plain (s : String) (style : String := "") : Except Fault Styled := .ok { Styled.plain s with style }

/-- A text that is read as markup. -/
def marked (tm : Terminal) (s : String) : Except Fault Styled :=
  match Markup.render tm.emoji s with
  | .ok styled => .ok styled
  | .error (.component e) => .error (Fault.ofComponent e)
  | .error e => .error (.markup e)

def line (tm : Terminal) (s : String) : Except Fault String := .ok (printed tm.columns (Styled.plain s))

def markedLine (tm : Terminal) (s : String) : Except Fault String := do
  let styled ← marked tm s
  match (printedLines tm.columns styled).findSome? Styled.failure? with
  | some e => throw (Fault.ofComponent e)
  | none => return printed tm.columns styled

/-- A column of a table whose texts are still to be read. -/
structure Unread where
  heading : Except Fault Styled := .ok {}
  cells : List (Except Fault Styled)
  centered : Bool := false
  fixedWidth : Option Nat := none

namespace Unread

def read (c : Unread) : Except Fault Column := do
  let heading ← c.heading
  return { heading, cells := ← c.cells.mapM id, centered := c.centered, fixedWidth := c.fixedWidth }

/-- The column with no text in it. -/
def blank (c : Unread) : Column := { cells := c.cells.map fun _ => {}, fixedWidth := c.fixedWidth }

end Unread

def column (heading : String) (cells : List (Except Fault Styled)) (centered : Bool := false) : Unread :=
  { heading := plain heading, cells, centered }

/-- Whether a column can have a character between the blanks on its sides. -/
def hasRoom (tm : Terminal) (columns : Nat) : Bool := columns + 4 ≤ tm.columns

/-- Draw a table with the given columns. Texts are not read where there is no room for any. A fault in a
style shows only when all texts have been measured. -/
def table (tm : Terminal) (t : Table) (columns : List Unread) : Except Fault String := do
  let columns ← if hasRoom tm columns.length then columns.mapM Unread.read else pure (columns.map Unread.blank)
  let t := { t with columns }
  match t.failure? tm.columns with
  | some e => throw (Fault.ofComponent e)
  | none => return t.render tm.columns

def drawOutcome (tm : Terminal) (o : Outcome) : Drawing :=
  if o.output = "" then [] else [line tm o.output]

/-- A line of a transcript and its answer. -/
def drawTranscript (tm : Terminal) (prompt command : String) (o : Outcome) : Drawing :=
  line tm (prompt ++ command) :: drawOutcome tm o

/-- The files of both areas. -/
def fileTable (tm : Terminal) (p : StatusPanel) : Except Fault String :=
  let files := p.staged ++ p.working
  let areas := p.staged.map (fun _ => "staged") ++ p.working.map fun _ => "working"
  table tm { box := Box.rounded }
    [column "Area" (areas.map (marked tm)), column "File" (files.map (marked tm ·.name)),
      column "Status" (files.map (plain ·.status.name))]

/-- The name of a branch in its colour. -/
def branchName (b : BranchRow) : Except Fault Styled :=
  plain b.name (if b.current then "bold " ++ b.color else b.color)

def branchTable (tm : Terminal) (p : StatusPanel) : Except Fault String :=
  table tm { title := some "Branches", box := Box.simple, showHeading := false }
    [column "Marker" (p.branches.map fun b => plain (if b.current then "*" else " ")),
      column "Name" (p.branches.map branchName), column "Commit" (p.branches.map (marked tm ·.commit))]

def recentLine (tm : Terminal) (c : Commit) : Except Fault String :=
  line tm ("  " ++ c.short ++ " " ++ c.message ++ (if c.isMerge then " MERGE" else "") ++ "  " ++
    c.timestamp.time.clockText)

def drawStatus (tm : Terminal) (p : StatusPanel) : Drawing :=
  if !p.initialized then [line tm "No Git repository. Run 'git init' to get started."]
  else
    [if p.detached then line tm ("Detached HEAD at commit: " ++ p.head)
      else line tm ("On branch: " ++ p.currentBranch),
     line tm ("Commits: " ++ toString p.commitCount)] ++
    (if p.staged.isEmpty && p.working.isEmpty then [] else [fileTable tm p]) ++
    [branchTable tm p] ++
    (if p.recentCommits.isEmpty then [] else line tm "Recent commits:" :: p.recentCommits.map (recentLine tm)) ++
    (if p.clean then [line tm "Nothing to commit, working directory clean"] else [])

/-- The mark for a success or failure. -/
def successMark (e : HistoryEntry) : Styled := Styled.plain (if e.isError then "✗" else "✓")

def historyTable (tm : Terminal) (p : HistoryPanel) : Except Fault String :=
  table tm { title := some "Command History", box := Box.rounded }
    [{ cells := p.rows.map (.ok <| successMark ·), fixedWidth := some 1 },
      column "Command" (p.rows.map (plain ·.command)), column "Output" (p.rows.map (plain ·.output)),
      column "Time" (p.rows.map (marked tm ·.timestamp.time.clockText))]

def drawHistory (tm : Terminal) (p : HistoryPanel) : Drawing :=
  if p.rows.isEmpty then [line tm "No commands yet."]
  else
    historyTable tm p ::
      (if p.truncated then
        [line tm ("Showing last " ++ toString p.rows.length ++ " commands of " ++ toString p.total ++ " total")]
      else [])

/-- The signs of all lanes in the row of a commit. -/
def glyphs (lanes : Nat) (n : GraphNode) : Styled :=
  (List.range lanes).foldl (fun s lane =>
    if lane = n.lane then s.add (if n.isMerge then "◆ " else "● ") ("bold " ++ n.color)
    else s.add "│ " "dim") {}

/-- What points at a commit, each with its style. An arrow leads from HEAD to the branches when HEAD stands
on one. -/
def refParts (g : Graph) (n : GraphNode) : List (String × String) :=
  let color (label : String) := ((Graph.findLane? g.lanes label).map (·.1.color)).getD ""
  let head :=
    if n.isHead then
      ("HEAD", "bold cyan") :: (if !n.labels.isEmpty && !g.detached then [(" -> ", "cyan")] else [])
    else []
  head ++ (n.labels.map fun label => (label, color label)).intersperse (", ", "")

def refs (g : Graph) (n : GraphNode) : Styled :=
  (refParts g n).foldl (fun s part => s.add part.1 part.2) {}

def graphTable (tm : Terminal) (g : Graph) : Except Fault String :=
  let nodes := g.nodes.reverse
  let lanes := max g.lanes.length 1
  table tm { box := Box.simple }
    [column "Graph" (nodes.map (.ok <| glyphs lanes ·)),
      column "Commit" (nodes.map (marked tm ·.short)), column "Message" (nodes.map (plain ·.message)),
      column "Refs" (nodes.map (.ok <| refs g ·))]

/-- The graph, newest commit first. -/
def drawGraph (tm : Terminal) (g : Graph) : Drawing :=
  if g.isEmpty then [line tm "No commits yet. Create your first commit to see the graph."]
  else graphTable tm g :: (if g.detached then [line tm "Detached HEAD"] else [])

def topicTable (tm : Terminal) (topics : List Topic) : Except Fault String :=
  table tm { title := some "Git Topics", box := Box.rounded }
    [column "Command" (topics.map (marked tm ·.name)), column "Category" (topics.map (marked tm ·.category)),
      column "Description" (topics.map (marked tm ·.description)),
      column "Try it" (topics.map fun t => plain (if t.simulated then "✓" else "-")) true]

def drawTopics (tm : Terminal) (topics : List Topic) : Drawing :=
  if topics.isEmpty then [line tm "No matching topics."] else [topicTable tm topics]

/-- The whole card of a topic. -/
def drawTopic (tm : Terminal) (t : Topic) : Drawing :=
  [line tm (t.name ++ " (" ++ t.category ++ ")"), markedLine tm t.description, line tm "\nExamples:"] ++
    t.examples.map (fun e => line tm ("  $ " ++ e)) ++
    [line tm "\nUse cases:"] ++ t.useCases.map (fun u => markedLine tm ("  - " ++ u)) ++
    (if t.related.isEmpty then [] else [line tm ("\nRelated: " ++ Text.join ", " t.related)]) ++
    (if t.simulated then [] else [line tm "Reference only: not available in the simulator."])

end Screen
end GitPractice
