import GitPractice.CommandLine.Commands

/-!
# The program

The program reads its own options, loads the settings, says how reports are
written, and goes on with the command. Settings that cannot be put together end
it before the command is looked at.

Help and the lines on usage are left out: a call that asks for help prints
nothing, and a mistaken one only the line that says what is wrong.
-/

namespace GitPractice
namespace Program

open Work

def version : String := "0.3.0"

def options : List OptionSpec :=
  [{ names := ["--version"] }, { names := ["-v", "--verbose"] }, Commands.helpOption]

inductive CommandName where
  | shell | run | topics | config
deriving DecidableEq

def CommandName.names : List String := ["shell", "run", "topics", "config"]

def CommandName.ofText? : String → Option CommandName
  | "shell" => some shell
  | "run" => some run
  | "topics" => some topics
  | "config" => some config
  | _ => none

/-- What is left to do when the command is known. -/
inductive Plan where
  /-- To serve a user who types lines. -/
  | serve (sh : Shell)
  | finish (work : Work Unit)

def planCommand (source : Source) (inv : Invocation) (settings : Settings) (arguments : List String) :
    CommandName → Work Plan
  | .shell => return .serve (← Commands.openShell inv.terminal settings arguments)
  | .run => return .finish (Commands.run source inv settings arguments)
  | .topics => return .finish (Commands.topics inv.terminal settings arguments)
  | .config => return .finish (Commands.config arguments)

/-- Take over what the settings say about reports; then everything is reported if asked for. -/
def configureReports (settings : Settings) (verbose : Bool) : Work Unit := do
  let (form, result) := (← get).form.configure settings
  modify fun p => { p with form }
  let _ ← faultless result
  if verbose then modify fun p => { p with form := { p.form with rank := Settings.Level.debug.rank } }

/-- Read the options of the program; two of them end it at once, and the one that stands first wins. -/
def readOptions (arguments : List String) : Work Arguments := do
  let a ← usage (Arguments.parse options false arguments)
  match (a.options.map (·.1)).find? fun key => key = "--version" || key = "--help" with
  | some "--version" =>
    print ("gitsim, version " ++ version ++ "\n")
    throw (.exit ExitStatus.success)
  | some _ => throw (.exit ExitStatus.success)
  | none => return a

/-- Find a command. What is no command but may be meant as an option is read as one first. -/
def findCommand (name : String) (arguments : List String) : Work CommandName := do
  match CommandName.ofText? name with
  | some command => return command
  | none =>
    if Arguments.looksLikeOption name then
      let _ ← readOptions (name :: arguments)
    usage (.error (.unknownCommand name (Suggestion.near CommandName.names name)))

/-- Read the options, find the command, and load the settings. -/
def plan (source : Source) (inv : Invocation) : Work Plan := do
  let a ← readOptions inv.arguments
  match a.others with
  | [] => usage (.error (if inv.arguments.isEmpty then .nothingAsked else .missingCommand))
  | name :: arguments =>
    let command ← findCommand name arguments
    let settings ← loadSettings
    configureReports settings (a.hasOption "--verbose")
    planCommand source inv settings arguments command

/-- All of the work, with lines from the input for a terminal. -/
def work (source : Source) (inv : Invocation) : Work Unit := do
  match ← plan source inv with
  | .serve sh =>
    Commands.serve source inv.interrupted sh ((Script.splitLines inv.input.toList).map String.ofList)
  | .finish work => work

/-- How the program ended and what it left. -/
structure Completion where
  output : String
  errors : String
  disk : Disk
  ending : Ending

def run (source : Source) (inv : Invocation) : Completion :=
  let (result, p) := (work source inv).run { home := inv.home }
  { output := p.output, errors := p.errors, disk := p.home.disk
    ending := match result with
      | .ok () => .exit ExitStatus.success
      | .error ending => ending }

end Program
end GitPractice
