import GitPractice.CommandLine.Work
import GitPractice.Record
import GitPractice.Script
import GitPractice.Shell

/-!
# The commands of the program

`run` plays lines in a fresh repository, `shell` is the terminal, `topics` looks
into the catalogue, and `config` shows the settings or writes the defaults.
-/

namespace GitPractice
namespace Commands

open Work

def helpOption : OptionSpec := { names := ["--help"] }

/-- The help of a command is not part of it. -/
def unlessHelp (a : Arguments) : Work Unit := do
  if a.hasOption "--help" then stop ExitStatus.success

/-! ## Running lines -/

def runOptions : List OptionSpec :=
  [{ names := ["-f", "--file"], takesValue := true }, { names := ["--json"] }, { names := ["--snapshot"] },
   { names := ["--graph"] }, { names := ["--strict"] }, helpOption]

/-- The lines of the script that is named, of which a dash stands for standard input. -/
def scriptLines (inv : Invocation) (name : String) : Work (List String) := do
  if name = "-" then
    if inv.interrupted then
      printError "\nAborted!\n"
      stop ExitStatus.generalError
    return Script.lines inv.input
  if name.toList.contains '\x00' then throw (.fault .nulInPath)
  match (← get).home.disk.read name with
  | .ok content =>
    match content.lines? with
    | some text => return Script.lines text
    | none => throw (.fault .notText)
  | .error cause => usage (.error (.unreadable "'-f' / '--file'" name cause.message))

/-- The lines of the script, if there is one. -/
def scriptOf (inv : Invocation) (a : Arguments) : Work (List String) :=
  match a.value? "--file" with
  | some name => scriptLines inv name
  | none => pure []

/-- Run a line and show it with its answer, unless only results are wanted. -/
def runLine (source : Source) (tm : Screen.Terminal) (settings : Settings) (quiet : Bool) (t : Session)
    (line : String) : Work Session := do
  let prompt ← faultless (settings.prompt t.snapshot)
  trace (Trace.ofLine source t line)
  unless quiet do
    faultless (settings.checkPrompt t.snapshot)
    draw (Screen.drawTranscript tm prompt line (t.interpret line))
  return t.run source line

def run (source : Source) (inv : Invocation) (settings : Settings) (arguments : List String) : Work Unit := do
  let a ← usage (Arguments.parse runOptions true arguments)
  unlessHelp a
  let lines := a.others ++ (← scriptOf inv a)
  if lines.isEmpty then usage (.error .noLines)
  let quiet := a.hasOption "--json" || a.hasOption "--snapshot"
  let answers := Session.answers source {} lines
  let failed := (answers.filter (·.isError)).length
  let t ← lines.foldlM (runLine source inv.terminal settings quiet) {}
  if a.hasOption "--json" then print (Record.jsonLines (t.snapshot.history.map fun e => Record.ofValue e.toValue))
  if a.hasOption "--snapshot" then print (Json.printIndented t.snapshot.toValue ++ "\n")
  if a.hasOption "--graph" then draw (Screen.drawGraph inv.terminal (Graph.ofSnapshot t.snapshot))
  report .debug { logger := "gitsim.commands.run", part := "run", operation := "run_handler", line := 84 }
    ("Replayed " ++ toString lines.length ++ " command(s), " ++ toString failed ++ " failed")
  if a.hasOption "--strict" && 0 < failed then failWith (.linesFailed failed lines.length)

/-! ## The terminal -/

/-- End the work at a fault in the terminal. -/
def failTerminal (fault : Fault) : Work Unit := do
  printError (Shell.failureText fault)
  stop ExitStatus.generalError

def showPrompt (sh : Shell) : Work Unit :=
  match sh.shownPrompt with
  | .ok text => print text
  | .error fault => failTerminal fault

/-- Serve the lines of the input until the user leaves. -/
def serve (source : Source) (interrupted : Bool) : Shell → List String → Work Unit
  | sh, [] => do
    showPrompt sh
    if interrupted then print "\n\nInterrupted. Goodbye!\n"
    else draw (sh.drawing .endOfInput)
  | sh, line :: lines => do
    showPrompt sh
    let command := ShellCommand.parse line
    match command.sessionLine with
    | some text => trace (Trace.ofLine source sh.session text)
    | none => pure ()
    let (next, reply) := sh.feed source line
    print reply.printed
    match reply.fault with
    | some fault => failTerminal fault
    | none => if reply.stop then pure () else serve source interrupted next lines

/-- Set up the terminal and greet. -/
def openShell (tm : Screen.Terminal) (settings : Settings) (arguments : List String) : Work Shell := do
  let a ← usage (Arguments.parse [helpOption] true arguments)
  unlessHelp a
  usage (a.atMost 0)
  match Shell.start? settings {} tm with
  | .error fault =>
    failTerminal fault
    throw (.exit ExitStatus.generalError)
  | .ok sh =>
    print (shellIntro ++ "\n")
    return sh

/-! ## Topics -/

def topicOptions : List OptionSpec :=
  [{ names := ["-c", "--category"], takesValue := true }, { names := ["--threshold"], takesValue := true },
   { names := ["--pretty"] }, helpOption]

/-- A category by its name in any case. -/
def readCategory (value : String) : Except UsageError String :=
  match Topic.categories.find? fun c => Text.foldWord c = Text.foldWord value with
  | some category => .ok category
  | none => .error (.noSuchChoice "'-c' / '--category'" value (Topic.categories.map Text.foldWord))

def readThreshold (value : String) : Except UsageError Int :=
  match Text.readInteger value with
  | .error _ => .error (.notANumber "'--threshold'" value)
  | .ok n => if 0 ≤ n ∧ n ≤ 100 then .ok n else .error (.outOfRange "'--threshold'" n 0 100)

/-- Check the values in the order in which the options first stand. -/
def checkTopicOptions (a : Arguments) : Except UsageError Unit :=
  ((a.options.map (·.1)).eraseDups).forM fun key =>
    match key, a.value? key with
    | "--category", some value => (readCategory value).map fun _ => ()
    | "--threshold", some value => (readThreshold value).map fun _ => ()
    | _, _ => .ok ()

/-- What is wanted of the topics. -/
structure TopicQuery where
  text : String
  category : Option String
  threshold : Value
  pretty : Bool

def showTopic (tm : Screen.Terminal) (q : TopicQuery) (t : Topic) : Work Unit :=
  if q.pretty then draw (Screen.drawTopic tm t) else print (Record.jsonLines [Record.ofValue t.toValue])

def searchTopics (tm : Screen.Terminal) (q : TopicQuery) : Work Unit := do
  let key := Topic.searchKey q.text
  let results ← if key = "" then pure (Topic.candidates q.category)
    else do
      let results := Topic.search q.text q.category (← faultless (Settings.threshold q.threshold))
      report .debug { logger := "gitsim.topics", part := "topics", operation := "search_topics", line := 375 }
        ("Topic search " ++ Text.quoted key ++ ": " ++ toString results.length ++ " of " ++
          toString (Topic.candidates q.category).length ++ " matched")
      pure results
  if q.pretty then draw (Screen.drawTopics tm results)
  else
    if results.isEmpty then
      faultless (Json.checkOutput q.threshold)
      printError (Record.error ("No topics match '" ++ q.text ++ "'") "not_found"
        [("query", .text q.text), ("category", .ofText? q.category), ("threshold", q.threshold)])
    print (Record.jsonLines (results.map fun t => Record.ofValue t.toValue))

def topics (tm : Screen.Terminal) (settings : Settings) (arguments : List String) : Work Unit := do
  let a ← usage (Arguments.parse topicOptions true arguments)
  unlessHelp a
  usage (checkTopicOptions a)
  usage (a.atMost 1)
  let category ← match a.value? "--category" with
    | some value => some <$> usage (readCategory value)
    | none => pure none
  let threshold ← match a.value? "--threshold" with
    | some value => Value.int <$> usage (readThreshold value)
    | none => do
      let fields ← faultless (settings.section? "topics")
      pure ((settings.entry? fields "fuzzy_threshold").getD (.int Topic.defaultThreshold))
  let q : TopicQuery := { text := a.others.headD "", category, threshold, pretty := a.hasOption "--pretty" }
  let exact := if q.text = "" then none else Topic.find? q.text
  match exact with
  | some t =>
    if category.all fun c => Text.lower t.category = Text.lower c then showTopic tm q t else searchTopics tm q
  | none => searchTopics tm q

/-! ## Settings -/

/-- Write the defaults, unless there are settings already. -/
def configInit (arguments : List String) : Work Unit := do
  let a ← usage (Arguments.parse [{ names := ["--force"] }, helpOption] true arguments)
  unlessHelp a
  usage (a.atMost 0)
  let home := (← get).home
  let path ← faultless home.path
  if (← faultless (home.isFound path)) && !a.hasOption "--force" then
    print ("Configuration already exists at " ++ path.text ++ ". Use --force to overwrite.\n")
  else
    let saved ← saveSettings Settings.defaults
    print ("Default configuration written to " ++ saved.text ++ "\n")

/-- The names of all sections in order. Keys that are no texts have no order among them. -/
def sectionNames (settings : Settings) : Except Fault (List String) :=
  let names := settings.fields.keys.filterMap Scalar.text?
  if names.length < settings.fields.length then .error .wrongKind
  else .ok (names.mergeSort fun a b => decide (a ≤ b))

def configShow (arguments : List String) : Work Unit := do
  let a ← usage (Arguments.parse [{ names := ["--pretty"] }, { names := ["--path"] }, helpOption] true arguments)
  unlessHelp a
  usage (a.atMost 1)
  let showJson (v : Value) : Work Unit := do
    faultless (Json.checkOutput v)
    print ((if a.hasOption "--pretty" then Json.printIndented v else Json.print v) ++ "\n")
  if a.hasOption "--path" then
    let path ← faultless (← get).home.path
    print (String.ofList (Json.compact true (.record [("config_path", .text path.text)])) ++ "\n")
  else
    let settings ← loadSettings
    match a.others.headD "" with
    | "" => showJson settings.toValue
    | name =>
      match settings.fields.get? name with
      | some value => showJson (.record [(name, settings.parts.unfold value)])
      | none => failWith (.unknownSection name (← faultless (sectionNames settings)))

def configCommands : List String := ["init", "show"]

def config (arguments : List String) : Work Unit := do
  let a ← readOptions arguments
  match a.others with
  | [] => usage (.error (if arguments.isEmpty then .nothingAsked else .missingCommand))
  | "init" :: rest => configInit rest
  | "show" :: rest => configShow rest
  | name :: rest =>
    if Arguments.looksLikeOption name then
      let _ ← readOptions (name :: rest)
    usage (.error (.unknownCommand name (Suggestion.near configCommands name)))
where
  readOptions (arguments : List String) : Work Arguments := do
    let a ← usage (Arguments.parse [helpOption] false arguments)
    unlessHelp a
    return a

end Commands
end GitPractice
