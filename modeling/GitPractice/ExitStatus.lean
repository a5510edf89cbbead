import GitPractice.Text.Blank

/-!
# Exit statuses

A practised command that fails is no failure of the program. Only what the
command line itself cannot do ends it with another status than success.
-/

namespace GitPractice
namespace ExitStatus

def success : Int := 0
def generalError : Int := 1
def usageError : Int := 2

/-- A line of a strict run was answered with an error. -/
def scriptFailed : Int := 64

/-- The settings cannot be used as asked for. -/
def configError : Int := 66

/-- Malformed input. -/
def dataError : Int := 70

def interrupted : Int := 130

/-- All statuses by name. -/
def table : List (String × Int) :=
  [("SUCCESS", success), ("GENERAL_ERROR", generalError), ("USAGE_ERROR", usageError),
   ("SCRIPT_FAILED", scriptFailed), ("CONFIG_ERROR", configError), ("DATA_ERROR", dataError),
   ("INTERRUPTED", interrupted)]

/-- The status for an error that is known by its name only. -/
def ofErrorName (name : String) : Int :=
  match name with
  | "JSONDecodeError" => dataError
  | "ValueError" => dataError
  | "KeyboardInterrupt" => interrupted
  | _ => generalError

end ExitStatus

/-- A failure that ends a command with a status of its own. -/
inductive CommandFailure where
  | unknownSection (name : String) (known : List String)
  | linesFailed (failed total : Nat)
deriving DecidableEq

namespace CommandFailure

def status : CommandFailure → Int
  | unknownSection _ _ => ExitStatus.configError
  | linesFailed _ _ => ExitStatus.scriptFailed

def message : CommandFailure → String
  | unknownSection name known =>
    "Unknown config section '" ++ name ++ "'. Known: " ++ Text.join ", " known
  | linesFailed failed total => toString failed ++ " of " ++ toString total ++ " command(s) failed"

end CommandFailure
end GitPractice
