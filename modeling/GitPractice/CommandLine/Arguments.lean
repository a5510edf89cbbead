import GitPractice.CommandLine.Suggestion
import GitPractice.Text.Blank
import GitPractice.Text.Quoted
import GitPractice.Text.Word

/-!
# Options and arguments

A command line is split into options and other arguments. An option is known by
its names, of which the short ones have one letter and can be run together; it is
a flag or takes a value, which stands behind it or is joined to it. After `--`
nothing is an option.
-/

namespace GitPractice

/-- An option that a command knows. -/
structure OptionSpec where
  /-- All its names, with their dashes. -/
  names : List String
  takesValue : Bool := false
deriving DecidableEq

namespace OptionSpec

/-- The name under which it is looked up: the last and longest one. -/
def key (o : OptionSpec) : String := o.names.getLast?.getD ""

/-- The names as they stand in messages. -/
def label (o : OptionSpec) : String := Text.join " / " (o.names.map fun n => "'" ++ n ++ "'")

end OptionSpec

/-- What is wrong with a command line. -/
inductive UsageError where
  | unknownOption (name : String) (near : List String)
  | needlessValue (name : String)
  | missingValue (name : String)
  | unexpected (arguments : List String)
  | unknownCommand (name : String) (near : List String)
  | missingCommand
  /-- Nothing to do is asked for, which is answered with a help text. -/
  | nothingAsked
  | noLines
  | noSuchChoice (label value : String) (choices : List String)
  | notANumber (label value : String)
  | outOfRange (label : String) (value : Int) (low high : Nat)
  | unreadable (label path cause : String)
deriving DecidableEq

namespace UsageError

/-- What is said about names that may be meant. -/
def hint : List String → String
  | [] => ""
  | [name] => " Did you mean " ++ Text.quoted name ++ "?"
  | names => " (Did you mean one of: " ++ Text.join ", " (names.map Text.quoted) ++ "?)"

def message : UsageError → String
  | unknownOption name near => "No such option " ++ Text.quoted name ++ "." ++ hint near
  | needlessValue name => "Option '" ++ name ++ "' does not take a value."
  | missingValue name => "Option '" ++ name ++ "' requires an argument."
  | unexpected [argument] => "Got unexpected extra argument (" ++ argument ++ ")"
  | unexpected arguments => "Got unexpected extra arguments (" ++ Text.join " " arguments ++ ")"
  | unknownCommand name near => "No such command " ++ Text.quoted name ++ "." ++ hint near
  | missingCommand => "Missing command."
  | nothingAsked => ""
  | noLines => "No commands given. Pass commands as arguments or use --file."
  | noSuchChoice label value choices =>
    "Invalid value for " ++ label ++ ": " ++ Text.quoted value ++ " is not one of " ++
      Text.join ", " (choices.map Text.quoted) ++ "."
  | notANumber label value =>
    "Invalid value for " ++ label ++ ": " ++ Text.quoted value ++ " is not a valid integer range."
  | outOfRange label value low high =>
    "Invalid value for " ++ label ++ ": " ++ toString value ++ " is not in the range " ++ toString low ++
      "<=x<=" ++ toString high ++ "."
  | unreadable label path cause => "Invalid value for " ++ label ++ ": '" ++ path ++ "': " ++ cause

end UsageError

/-- A command line taken apart. -/
structure Arguments where
  /-- The options in the order in which they stand, each with its value. -/
  options : List (String × String) := []
  others : List String := []
deriving DecidableEq, Inhabited

namespace Arguments

def hasOption (a : Arguments) (key : String) : Bool := a.options.any (·.1 = key)

/-- The value of an option; of several the last one counts. -/
def value? (a : Arguments) (key : String) : Option String :=
  (a.options.reverse.find? (·.1 = key)).map (·.2)

def addOption (a : Arguments) (key value : String) : Arguments :=
  { a with options := a.options ++ [(key, value)] }

def isLong (argument : String) : Bool := Text.startsWith argument "--"

/-- Flags that are run together, up to one that takes a value: it takes the rest of the letters, or the
next argument if there is none. -/
def readShort (specs : List OptionSpec) (a : Arguments) (next : List String) :
    List Char → Except UsageError (Arguments × List String)
  | [] => .ok (a, next)
  | c :: cs =>
    let name := String.ofList ['-', c]
    match specs.find? (·.names.contains name) with
    | none => .error (.unknownOption name [])
    | some spec =>
      if spec.takesValue then
        match cs, next with
        | [], [] => .error (.missingValue name)
        | [], value :: next => .ok (a.addOption spec.key value, next)
        | cs, next => .ok (a.addOption spec.key (String.ofList cs), next)
      else readShort specs (a.addOption spec.key "") next cs

/-- An option with a long name, with its value behind an equals sign or as the next argument. -/
def readLong (specs : List OptionSpec) (a : Arguments) (next : List String) (argument : String) :
    Except UsageError (Arguments × List String) :=
  let name := String.ofList (argument.toList.takeWhile (· ≠ '='))
  let joined := argument.toList.drop (name.length + 1)
  let isJoined := argument.toList.contains '='
  match specs.find? (·.names.contains name) with
  | none => .error (.unknownOption name (Suggestion.near ((specs.flatMap (·.names)).filter isLong) name))
  | some spec =>
    if spec.takesValue then
      if isJoined then .ok (a.addOption spec.key (String.ofList joined), next)
      else
        match next with
        | [] => .error (.missingValue name)
        | value :: next => .ok (a.addOption spec.key value, next)
    else if isJoined then .error (.needlessValue name)
    else .ok (a.addOption spec.key "", next)

/-- Take arguments apart. With `mixed` options may stand behind other arguments; without, the first
other argument ends the options. -/
def read (specs : List OptionSpec) (mixed : Bool) (a : Arguments) :
    Nat → List String → Except UsageError Arguments
  | 0, rest => .ok { a with others := a.others ++ rest }
  | _ + 1, [] => .ok a
  | fuel + 1, argument :: rest =>
    if argument = "--" then .ok { a with others := a.others ++ rest }
    else if Text.startsWith argument "-" && argument ≠ "-" then
      let result := if isLong argument then readLong specs a rest argument
        else readShort specs a rest (argument.toList.drop 1)
      match result with
      | .ok (a, rest) => read specs mixed a fuel rest
      | .error e => .error e
    else if mixed then read specs mixed { a with others := a.others ++ [argument] } fuel rest
    else .ok { a with others := a.others ++ argument :: rest }

/-- Take the arguments of a command apart. -/
def parse (specs : List OptionSpec) (mixed : Bool) (arguments : List String) : Except UsageError Arguments :=
  read specs mixed {} arguments.length arguments

/-- Whether an argument in the place of a command may be meant as an option, as it begins with no letter
and no digit. -/
def looksLikeOption (argument : String) : Bool :=
  argument.toList.head?.any fun c => !Text.isWord c || c = '_'

/-- Refuse more than `n` arguments besides the options. -/
def atMost (n : Nat) (a : Arguments) : Except UsageError Unit :=
  if n < a.others.length then .error (.unexpected (a.others.drop n)) else .ok ()

end Arguments
end GitPractice
