import GitPractice.Settings.File
import GitPractice.Settings.Template
import GitPractice.Text.Word

/-!
# Logging

Settings say which reports are written and in what form. A level is named by a
word in any case; a word that names none means that warnings are written. The
form is a text with fields such as `%(message)s`.
-/

namespace GitPractice
namespace Settings

/-- The names of the levels with their ranks. -/
def levelNames : List (String × Nat) :=
  [("CRITICAL", 50), ("DEBUG", 10), ("ERROR", 40), ("FATAL", 50), ("INFO", 20), ("NOTSET", 0),
   ("WARN", 30), ("WARNING", 30)]

/-- The rank of a level by its name. Two names are known besides those of levels: they stand for the
basic format, a text that names no level, and for the styles of formats, which are no text at all. -/
def levelRank (name : String) : Except Fault Nat :=
  match levelNames.find? (·.1 = name) with
  | some (_, rank) => .ok rank
  | none =>
    if name = "BASIC_FORMAT" then .error (.unknownLevel "%(levelname)s:%(name)s:%(message)s")
    else if name = "_STYLES" then .error .wrongKind
    else .ok 30

/-- Letters that end a place in a format, in any case. Three of other alphabets have one of them as
their small or capital letter. -/
def isConversion (c : Char) : Bool :=
  "diouxefgcrsa%".toList.contains c.toLower || c = '\u0130' || c = '\u0131' || c = '\u017f'

/-- Drop a width: a star or digits. -/
def dropWidth : List Char → List Char
  | '*' :: cs => cs
  | cs => cs.dropWhile fun c => (Text.decimalValue? c).isSome

def dropPrecision : List Char → List Char
  | '.' :: cs =>
    match cs with
    | '*' :: cs => cs
    | d :: _ => if (Text.decimalValue? d).isSome then dropWidth cs else '.' :: cs
    | [] => ['.']
  | cs => cs

/-- Whether a field with its conversion begins behind the percent sign and bracket. -/
def startsField (cs : List Char) : Bool :=
  let name := cs.takeWhile Text.isWord
  match name, cs.dropWhile Text.isWord with
  | _ :: _, ')' :: rest =>
    let rest := rest.dropWhile fun c => c = '#' || c = '0' || c = '+' || c = ' ' || c = '-'
    (dropPrecision (dropWidth rest)).head?.any isConversion
  | _, _ => false

/-- Whether a format has a field at all. -/
def hasField : List Char → Bool
  | '%' :: '(' :: rest => startsField rest || hasField rest
  | _ :: rest => hasField rest
  | [] => false

/-- What a report is written with. -/
structure LogForm where
  rank : Nat
  /-- The format of a line, unless it cannot be encoded. -/
  format : Option String
deriving DecidableEq, Inhabited

namespace LogForm

/-- The form before any settings are read. -/
def initial : LogForm := { rank := 20, format := some "%(levelname)s: %(message)s" }

/-- The fields of a report by their names. -/
def field? (level : Level) (origin : Origin) (message : String) : Template.FieldTable
  | "name" => some (.text origin.logger)
  | "msg" => some (.text message)
  | "args" => some .noArguments
  | "levelname" => some (.text level.name)
  | "levelno" => some (.number level.rank)
  | "filename" => some (.text (origin.part ++ ".py"))
  | "module" => some (.text origin.part)
  | "exc_info" => some .nothing
  | "exc_text" => some .nothing
  | "stack_info" => some .nothing
  | "lineno" => some (.number origin.line)
  | "funcName" => some (.text origin.operation)
  | "threadName" => some (.text "MainThread")
  | "processName" => some (.text "MainProcess")
  | "message" => some (.text message)
  | _ => none

/-- A report as it is written, if it is urgent enough. One that does not go with the format is not
written at all. -/
def write (form : LogForm) (level : Level) (origin : Origin) (message : String) : String :=
  if level.rank < form.rank then ""
  else
    match form.format.bind (Template.fill? (field? level origin message)) with
    | some text => text ++ "\n"
    | none => ""

def writeReports (form : LogForm) (reports : List Report) : String :=
  String.join (reports.map fun r => form.write r.level r.origin r.message)

/-- Take over what the settings say. The rank is set before the format is looked at, so it stays set
when the format is wrong. -/
def configure (form : LogForm) (settings : Settings) : LogForm × Except Fault Nat :=
  match settings.section? "logging" with
  | .error fault => (form, .error fault)
  | .ok fields =>
    match (settings.textOf ((fields.get? "level").getD (.text "WARNING"))).bind fun s => levelRank (Text.upperWord s) with
    | .error fault => (form, .error fault)
    | .ok rank =>
      let form := { form with rank }
      match (settings.entry? fields "format").getD .null with
      | .text format =>
        if format = "" then (form, .ok rank)
        else if hasField format.toList then ({ form with format := some format }, .ok rank)
        else (form, .error (.invalidFormat format))
      | .atom (.unpaired points) =>
        if hasField (points.map Text.charOfPoint) then ({ form with format := none }, .ok rank)
        else (form, .error (.invalidFormat (Scalar.unpaired points).shown))
      | v => (form, if v.isTruthy then .error .wrongKind else .ok rank)

end LogForm
end Settings
end GitPractice
