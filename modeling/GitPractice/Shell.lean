import GitPractice.Screen.Drawing
import GitPractice.Session
import GitPractice.Settings.Basic
import GitPractice.Text.Numeral
import GitPractice.Topic.Search

/-!
# The shell

The shell feeds a session line by line and shows the views in between. It has a
few verbs of its own; a verb is what a line begins with in letters, digits and
underscores, so it ends at any other character. All other lines go to the
session as they are, and `help` goes there too before the views are listed.
-/

namespace GitPractice

inductive ShellCommand where
  | nothing
  | graph
  | panel
  | history (argument : String)
  | topics (query : String)
  | help (argument : String)
  | leave
  | endOfInput
  /-- A line for the session. -/
  | line (text : String)
deriving DecidableEq, Inhabited

namespace ShellCommand

def isVerbChar (c : Char) : Bool := c.isAlphanum || c = '_'

/-- Read a line that begins with a verb. -/
def ofVerb (line : List Char) : ShellCommand :=
  let argument := String.ofList (Text.stripChars (line.dropWhile isVerbChar))
  match String.ofList (line.takeWhile isVerbChar) with
  | "graph" => graph
  | "panel" => panel
  | "history" => history argument
  | "topics" => topics argument
  | "help" => help argument
  | "exit" => leave
  | "quit" => leave
  | "EOF" => endOfInput
  | _ => .line (String.ofList line)

/-- Read a line. A question mark is short for `help`. -/
def parse (line : String) : ShellCommand :=
  match Text.stripChars line.toList with
  | [] => nothing
  | '?' :: rest => help (String.ofList (Text.stripChars rest))
  | cs => ofVerb cs

/-- The line that the session gets to see, if it gets any. -/
def sessionLine : ShellCommand → Option String
  | help argument => some (Text.strip ("help " ++ argument))
  | line text => some text
  | _ => none

end ShellCommand

structure Shell where
  settings : Settings
  /-- The names for the prompt, as the settings give them. -/
  names : PromptNames
  session : Session
  terminal : Screen.Terminal := .wide

/-- What the shell does about a line. -/
structure ShellReply where
  printed : String := ""
  /-- Whether the user leaves. -/
  stop : Bool := false
  fault : Option Fault := none

namespace Shell

/-- Set up a shell on a session. -/
def start? (settings : Settings) (session : Session) (terminal : Screen.Terminal := .wide) :
    Except Fault Shell :=
  settings.promptNames.map fun names => { settings, names, session, terminal }

def prompt (sh : Shell) : String := GitPractice.prompt sh.session.snapshot sh.names

/-- The prompt, if it can be put out. -/
def shownPrompt (sh : Shell) : Except Fault String :=
  (sh.settings.checkPrompt sh.session.snapshot).map fun _ => sh.prompt

/-- What is told about a fault that ends the shell. -/
def failureText (fault : Fault) : String := "Error running shell: " ++ fault.message ++ "\n"

/-- Run the line of a command in the session. -/
def runSession (source : Source) (sh : Shell) (command : ShellCommand) : Shell :=
  match command.sessionLine with
  | some line => { sh with session := sh.session.run source line }
  | none => sh

/-- A view, or the fault in making it. -/
def drawn (view : Except Fault Screen.Drawing) : Screen.Drawing :=
  match view with
  | .ok drawing => drawing
  | .error fault => [.error fault]

def panelView (sh : Shell) : Screen.Drawing :=
  drawn ((sh.settings.statusPanel sh.session.snapshot).map (Screen.drawStatus sh.terminal))

def historyUsage : String := "Usage: history [N]\n"

/-- The history, as long as the argument says or else the settings. -/
def historyView (sh : Shell) (argument : String) : Screen.Drawing :=
  drawn do
    let display ← sh.settings.section? "display"
    let draw (limit : Value) : Except Fault Screen.Drawing :=
      (sh.settings.historyPanel display sh.session.snapshot limit).map (Screen.drawHistory sh.terminal)
    if argument = "" then draw (sh.settings.historyLimit display)
    else
      match Text.readInteger argument with
      | .ok n => draw (.int n)
      | .error _ => return [.ok historyUsage]

/-- The card of the topic that is named, or a search. The threshold matters only to a search for
something. -/
def topicView (tm : Screen.Terminal) (settings : Settings) (query : String) : Screen.Drawing :=
  match if query = "" then none else Topic.find? query with
  | some topic => Screen.drawTopic tm topic
  | none =>
    drawn do
      let fields ← settings.section? "topics"
      let threshold := (settings.entry? fields "fuzzy_threshold").getD (.int Topic.defaultThreshold)
      if Topic.searchKey query = "" then return Screen.drawTopics tm Topic.catalog
      return Screen.drawTopics tm (Topic.search query none (← Settings.threshold threshold))

/-- The answer that the session gives to a line. -/
def answer (sh : Shell) (line : String) : Screen.Drawing :=
  Screen.drawOutcome sh.terminal (sh.session.interpret line)

def drawing (sh : Shell) : ShellCommand → Screen.Drawing
  | .nothing => []
  | .graph => Screen.drawGraph sh.terminal (Graph.ofSnapshot sh.session.snapshot)
  | .panel => sh.panelView
  | .history argument => sh.historyView argument
  | .topics query => topicView sh.terminal sh.settings query
  | .help argument =>
    sh.answer (Text.strip ("help " ++ argument)) ++
      [.ok "\nShell views: graph, panel, history, topics [query], exit\n"]
  | .leave => [.ok "\nGoodbye!\n"]
  | .endOfInput => [.ok "\n", .ok "\nGoodbye!\n"]
  | .line text => sh.answer text

/-- Deal with one line. -/
def feed (source : Source) (sh : Shell) (line : String) : Shell × ShellReply :=
  let command := ShellCommand.parse line
  let (printed, fault) := (sh.drawing command).print
  (sh.runSession source command,
    { printed, fault, stop := fault.isNone && (command = .leave || command = .endOfInput) })

/-- The shell after some lines, whatever became of them. -/
def feedAll (source : Source) (sh : Shell) (lines : List String) : Shell :=
  lines.foldl (fun sh line => (sh.feed source line).1) sh

end Shell

/-- What the shell prints when it starts. -/
def shellIntro : String := "
╔═══════════════════════════════════════════════════════════════════╗
║                     gitsim Interactive Terminal                   ║
║                                                                   ║
║  Practice git without touching a real repository.                 ║
║                                                                   ║
║  Git:    git init, add, commit, checkout, branch, merge,          ║
║          status, log, reset --hard HEAD~1                         ║
║  Files:  touch <file>, echo \"text\" > <file>                       ║
║  Views:  graph, panel, history, topics [query]                    ║
║  Type 'help' for the command list, 'clear' to start over,         ║
║  'exit' or Ctrl+D to quit                                         ║
╚═══════════════════════════════════════════════════════════════════╝
"

end GitPractice
