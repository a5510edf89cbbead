import GitPractice.Settings.Disk
import GitPractice.Settings.Layer
import GitPractice.Value.Json.Parse
import GitPractice.Value.Json.Print
import GitPractice.Value.Toml
import GitPractice.Value.Yaml.Parse
import GitPractice.Value.Yaml.Print

/-!
# The file of settings

Settings are kept in one file, in JSON, TOML or YAML as its ending says. It is
the file that a variable names, if that exists, or else the first of four names
in the directory for settings that holds more than two bytes. Loading puts the
defaults, the file and the environment on top of each other; a file that cannot
be read is reported and passed over. Saving writes to the file that is in effect.
As TOML cannot be written, JSON is then saved beside it.
-/

namespace GitPractice
namespace Settings

/-- How urgent a report is. -/
inductive Level where
  | debug | info | warning | error
deriving DecidableEq, Inhabited

namespace Level

def name : Level → String
  | debug => "DEBUG"
  | info => "INFO"
  | warning => "WARNING"
  | error => "ERROR"

def rank : Level → Nat
  | debug => 10
  | info => 20
  | warning => 30
  | error => 40

end Level

/-- Where a report comes from: the name of its log, and the part of the program, the operation and the
line there that make it. -/
structure Origin where
  logger : String
  part : String
  operation : String
  line : Nat
deriving DecidableEq

/-- What happened with the file. -/
inductive Report where
  | saved (path : Path)
  | savingAsJson
  | unreadable (path : Path)
  | unwritable (path : Path) (reason : Disk.WriteError)
deriving DecidableEq

namespace Report

def level : Report → Level
  | saved _ => .info
  | savingAsJson => .warning
  | unreadable _ => .error
  | unwritable _ _ => .error

def origin : Report → Origin
  | unreadable _ => madeBy "load_config" 85
  | savingAsJson => madeBy "save_config" 97
  | saved _ => madeBy "save_config" 107
  | unwritable _ _ => madeBy "save_config" 109
where
  madeBy (operation : String) (line : Nat) : Origin :=
    { logger := "gitsim", part := "config", operation, line }

def message : Report → String
  | saved path => "Saved configuration to " ++ path.text
  | savingAsJson => "Cannot write TOML. Saving as JSON instead."
  | unreadable path => "Ignoring unreadable config " ++ path.text
  | unwritable path reason => "Could not write config " ++ path.text ++ ": " ++ reason.message

end Report

inductive Format where
  | json | toml | yaml
deriving DecidableEq

/-- The format of a file by its ending; any ending that is not known means JSON. -/
def formatOf (p : Path) : Format :=
  match p.ending with
  | ".toml" => .toml
  | ".yaml" => .yaml
  | ".yml" => .yaml
  | _ => .json

/-- The value of a text in JSON. A value too deep inside others is a fault, unless the text is wrong before
it. -/
def readJson (s : String) : Reading Value :=
  match Json.deepBracket? depthLimit false [] [] s.toList with
  | some deep =>
    if (Json.parse? deep.before).isSome then .error (.fault (.tooDeep (some deep.bracket))) else malformed
  | none => .ofOption (Json.parse? s)

/-- Read a file. One in YAML without a value is an empty record. -/
def readContent (format : Format) (content : Content) : Reading Whole :=
  match format, content with
  | _, .bytes _ => malformed
  | .json, content => do return { value := ← readJson (← Reading.ofOption content.lines?) }
  | .toml, .text s => do return { value := .record (← Toml.parse s) }
  | .yaml, content => do
    let w ← Yaml.parse (← Reading.ofOption content.lines?)
    return if w.head.isTruthy then w else { value := .record [] }

def fileNames : List String := ["config.json", "config.toml", "config.yaml", "config.yml"]

/-- The home of a user: the files there, the variables that are set, and the home directory that the
system has on record for the user. -/
structure Home where
  disk : Disk
  environment : List Variable
  account : Option String := none

namespace Home

/-- The value of a variable; the last of several of one name counts. -/
def valueOf? (home : Home) (name : String) : Option String :=
  (home.environment.reverse.find? (·.1 = name)).map (·.2)

/-- The path that the text of a home directory stands for. Slashes at the end do not count, and a home that
is written as that of another user is not looked up. -/
def pathOfHome (value : String) : Except Fault Path :=
  match (value.toList.reverse.dropWhile (· = '/')).reverse with
  | [] => .ok (.ofText "/")
  | '~' :: _ => .error .noHome
  | cs => .ok (.ofText (String.ofList cs))

/-- The directory for settings, in the home directory that the variable names or else the system. -/
def directory (home : Home) : Except Fault Path :=
  match home.valueOf? homeVariable <|> home.account with
  | some text => (pathOfHome text).map (·.child ".gitsim")
  | none => .error .noHome

/-- Whether something is at a path. -/
def isFound (home : Home) (p : Path) : Except Fault Bool :=
  (home.disk.isFound p).mapError fun _ => .unreachable

/-- Whether there is a file with something in it. What is no file of its own counts by itself. -/
def isFilled (home : Home) (p : Path) : Except Fault Bool := do
  return (← home.isFound p) && (home.disk.read p.text).toOption.all (2 < ·.size)

/-- The file that the variable names, if it exists. -/
def namedFile (home : Home) : Except Fault (Option Path) :=
  match home.valueOf? fileVariable with
  | none => .ok none
  | some "" => .ok none
  | some text => return if ← home.isFound (.ofText text) then some (.ofText text) else none

/-- The file in effect, or where one would be written. -/
def path (home : Home) : Except Fault Path := do
  match ← home.namedFile with
  | some p => return p
  | none =>
    let directory ← home.directory
    return ((← (fileNames.map directory.child).findM? home.isFilled).getD (directory.child "config.json"))

/-- What the file in effect adds to the defaults. A file that holds something else than a record cannot
be merged. -/
def readFile (home : Home) (p : Path) : List Report × Except Fault Settings :=
  match (Reading.ofOption (home.disk.read p.text).toOption).bind (readContent (formatOf p)) with
  | .error .malformed => ([.unreadable p], .ok defaults)
  | .error (.fault fault) => ([], .error fault)
  | .ok w =>
    match w.head with
    | .record fields => ([], .ok (ofLayers defaults fields w.parts))
    | v => ([], .error (.noRecord v.kindName "items"))

/-- The defaults with the file on top of them. -/
def loadFile (home : Home) : List Report × Except Fault Settings :=
  match home.path with
  | .error fault => ([], .error fault)
  | .ok p =>
    match home.isFound p with
    | .error fault => ([], .error fault)
    | .ok true => home.readFile p
    | .ok false => ([], .ok defaults)

/-- The settings in effect. -/
def load (home : Home) : List Report × Except Fault Settings :=
  let (reports, layered) := home.loadFile
  (reports, layered.bind fun settings => settings.applyEnvironment home.environment)

/-- The text of a file in the given format. -/
def fileText (format : Format) (settings : Fields) : String :=
  match format with
  | .yaml => Yaml.print settings
  | _ => String.ofList (Json.indented true 0 (.record settings))

/-- What saving leaves: the disk, what is reported, and the path written to. The path is given back even
when nothing could be written there. -/
structure Saved where
  disk : Disk
  reports : List Report
  path : Path

/-- Save settings to the file in effect. -/
def save (home : Home) (settings : Fields) : Except Fault Saved := do
  let p ← home.path
  let (reports, p) := if formatOf p = .toml then ([Report.savingAsJson], p.withEnding ".json") else ([], p)
  match home.disk.write p (.text (fileText (formatOf p) settings)) with
  | .ok disk => return { disk, reports := reports ++ [.saved p], path := p }
  | .error unfinished =>
    return { disk := unfinished.disk, reports := reports ++ [.unwritable p unfinished.error], path := p }

end Home
end Settings
end GitPractice
