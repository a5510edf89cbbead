import GitPractice.CommandLine.Arguments
import GitPractice.CommandLine.Trace
import GitPractice.ExitStatus
import GitPractice.Screen.Drawing
import GitPractice.Settings.Logging

/-!
# Work on a command line

The program is a function: from what it is given to what it prints, which files
there are afterwards, and how it ends. While it works it keeps what it has
printed so far, since that stays printed however the work ends.
-/

namespace GitPractice

/-- What the program is given besides ids and the time. -/
structure Invocation where
  arguments : List String
  home : Settings.Home
  /-- Everything on standard input. -/
  input : String := ""
  /-- Whether the user breaks off where the input ends. -/
  interrupted : Bool := false
  terminal : Screen.Terminal := .wide

inductive Ending where
  | exit (status : Int)
  /-- A fault that nothing deals with. -/
  | fault (fault : Fault)
deriving DecidableEq

/-- What has been done so far. -/
structure Progress where
  output : String := ""
  errors : String := ""
  form : Settings.LogForm := .initial
  home : Settings.Home

/-- Steps of work, which may end it. -/
abbrev Work := ExceptT Ending (StateM Progress)

namespace Work

def print (text : String) : Work Unit := modify fun p => { p with output := p.output ++ text }

def printError (text : String) : Work Unit := modify fun p => { p with errors := p.errors ++ text }

def stop (status : Int) : Work Unit := throw (.exit status)

/-- End the work as a command line that is not understood. -/
def usage {α : Type} (result : Except UsageError α) : Work α :=
  match result with
  | .ok a => pure a
  | .error e => do
    let message := e.message
    unless message = "" do printError ("Error: " ++ message ++ "\n")
    throw (.exit ExitStatus.usageError)

/-- End the work at a fault. -/
def faultless {α : Type} (result : Except Fault α) : Work α :=
  match result with
  | .ok a => pure a
  | .error fault => throw (.fault fault)

def report (level : Settings.Level) (origin : Settings.Origin) (message : String) : Work Unit := do
  printError ((← get).form.write level origin message)

def trace (entries : List Trace.Entry) : Work Unit :=
  entries.forM fun e => report .debug e.origin e.message

def draw (drawing : Screen.Drawing) : Work Unit := do
  let (text, fault) := drawing.print
  print text
  match fault with
  | some fault => throw (.fault fault)
  | none => pure ()

/-- Load the settings and report what was wrong with the file. -/
def loadSettings : Work Settings := do
  let p ← get
  let (reports, settings) := p.home.load
  printError (p.form.writeReports reports)
  faultless settings

/-- Save settings and report what came of it. -/
def saveSettings (settings : Fields) : Work Path := do
  let p ← get
  let saved ← faultless (p.home.save settings)
  modify fun p => { p with home := { p.home with disk := saved.disk } }
  printError (p.form.writeReports saved.reports)
  return saved.path

/-- End the work with a failure of its own. -/
def failWith (failure : CommandFailure) : Work Unit := do
  report .debug { logger := "gitsim.cli", part := "cli", operation := "main", line := 45 }
    ("Command failed with exit code " ++ toString failure.status)
  printError ("Error: " ++ failure.message ++ "\n")
  stop failure.status

end Work
end GitPractice
