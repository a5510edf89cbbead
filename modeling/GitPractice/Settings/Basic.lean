import GitPractice.Fault
import GitPractice.Value.Parts
import GitPractice.Value.Shown
import GitPractice.View.Panel

/-!
# Settings

Settings are a record of sections. They come from files and from the environment,
so any value may stand anywhere: a section may be no record, a number may be a
text, and a record may stand at several places. Nothing is checked when settings
are put together. What is needed is checked where it is used, and only then.
-/

namespace GitPractice

/-- Numbers are compared as they are: true counts one and false nothing. -/
inductive Number where
  | whole (n : Int)
  | real (x : Real64)
deriving DecidableEq

namespace Number

def ofValue? : Value → Option Number
  | .int n => some (.whole n)
  | .bool b => some (.whole (if b then 1 else 0))
  | .real x => some (.real x)
  | _ => none

end Number

namespace Real64

def isPositive (x : Real64) : Bool := !x.isNaN && !x.signBit && !x.isZero

/-- Whether the natural number is at most `x`. -/
def natLe (n : Nat) (x : Real64) : Bool :=
  if x.isNaN then false
  else if x.isInfinite then !x.signBit
  else if x.isZero then n = 0
  else !x.signBit && n * x.ratio.2 ≤ x.ratio.1

/-- Whether `x` is at most the natural number. -/
def leNat (x : Real64) (n : Nat) : Bool :=
  if x.isNaN then false
  else if x.isInfinite then x.signBit
  else x.signBit || x.isZero || x.ratio.1 ≤ n * x.ratio.2

end Real64

/-- A record of sections, with what stands at several places of it. -/
structure Settings where
  fields : Fields
  parts : Parts := #[]

namespace Settings

instance : Coe Fields Settings := ⟨fun fields => { fields }⟩

/-- What holds when nothing else is said. -/
def defaults : Fields :=
  [("prompt", .record [("user", .text "user"), ("host", .text "computer"), ("repo_host", .text "repo")]),
   ("display", .record [("recent_commits", .int 3), ("history_limit", .int 10),
     ("output_preview_chars", .int 100)]),
   ("topics", .record [("fuzzy_threshold", .int 60)]),
   ("logging", .record [("level", .text "WARNING"), ("format", .text "%(levelname)s: %(message)s")])]

/-- The value of an entry of a section. -/
def entry? (settings : Settings) (fields : Fields) (name : String) : Option Value :=
  (fields.get? name).map settings.parts.head

/-- The value of a section. -/
def get? (settings : Settings) (name : String) : Option Value := settings.entry? settings.fields name

/-- The settings as one value. -/
def toValue (settings : Settings) : Value := settings.parts.unfold (.record settings.fields)

/-- The entries of a section; a section that is not there is empty. -/
def section? (settings : Settings) (name : String) : Except Fault Fields :=
  match settings.get? name with
  | none => .ok []
  | some (.record fields) => .ok fields
  | some v => .error (.noRecord v.kindName "get")

/-- The value as it stands in a text. -/
def textOf (settings : Settings) (v : Value) : Except Fault String :=
  let v := settings.parts.unfold v
  if v.hasTooLong then .error .integerTooLarge else .ok v.shown

/-! ## The prompt -/

/-- The section for the prompt. Here one without content is passed over, whatever it is. -/
def promptSection (settings : Settings) : Except Fault Fields :=
  match settings.get? "prompt" with
  | none => .ok []
  | some (.record fields) => .ok fields
  | some v => if v.isTruthy then .error (.noRecord v.kindName "get") else .ok []

def userOf (fields : Fields) : Value := (fields.get? "user").getD (.text "user")

def hostOf (fields : Fields) : Value := (fields.get? "host").getD (.text "computer")

def repoHostOf (fields : Fields) : Value := (fields.get? "repo_host").getD (.text "repo")

/-- The names for the prompt. -/
def promptNames (settings : Settings) : Except Fault PromptNames := do
  let fields ← settings.promptSection
  return { user := ← settings.textOf (userOf fields), host := ← settings.textOf (hostOf fields)
           repoHost := ← settings.textOf (repoHostOf fields) }

/-- The prompt in the given state. -/
def prompt (settings : Settings) (s : Snapshot) : Except Fault String :=
  settings.promptNames.map fun names => GitPractice.prompt s names

/-- Check that the prompt in the given state can be put out. Only the two names at its beginning may hold
what cannot be encoded. -/
def checkPrompt (settings : Settings) (s : Snapshot) : Except Fault Unit := do
  let fields ← settings.promptSection
  let place := if s.initialized then repoHostOf fields else hostOf fields
  let pointsOf (v : Value) : List Nat := (settings.parts.unfold v).shownPoints
  let points := pointsOf (userOf fields) ++ '@'.toNat :: pointsOf place
  if points.any Text.isHalf then throw (Fault.unencodable points)

/-! ## Numbers -/

/-- How many of the last entries are meant. A number that is not positive means none of them, and a
positive one must be whole. -/
def count (v : Value) : Except Fault Int :=
  match Number.ofValue? v with
  | some (.whole n) => .ok n
  | some (.real x) => if x.isPositive then .error .notWhole else .ok 0
  | none => .error (.notComparable ">" v.kindName "int")

/-- Check that a text can be shortened to what the setting says. Only a text that is longer needs a
whole number. -/
def previewLimit (v : Value) (text : String) : Except Fault Int :=
  match Number.ofValue? v with
  | some (.whole n) => .ok n
  | some (.real x) =>
    if x.leNat 0 || Real64.natLe text.length x then .ok 0 else .error .notWhole
  | none => .error (.notComparable "<=" v.kindName "int")

/-- The least likeness that reaches the threshold, where 101 is out of reach. -/
def threshold (v : Value) : Except Fault Int :=
  match Number.ofValue? v with
  | some (.whole n) => .ok n
  | some (.real x) => .ok (((List.range 101).find? fun n => x.leNat n).getD 101)
  | none => .error (.notComparable ">=" "int" v.kindName)

/-! ## Panels -/

/-- The status panel. How many commits it shows matters only inside a repository. -/
def statusPanel (settings : Settings) (s : Snapshot) : Except Fault StatusPanel := do
  let display ← settings.section? "display"
  if s.initialized then
    return StatusPanel.ofSnapshot s (← count ((settings.entry? display "recent_commits").getD (.int 3)))
  else return StatusPanel.ofSnapshot s

/-- How many entries the history panel shows if nothing else is asked for. -/
def historyLimit (settings : Settings) (display : Fields) : Value :=
  (settings.entry? display "history_limit").getD (.int 10)

/-- The history panel with its last entries, as many as `limit` says. -/
def historyPanel (settings : Settings) (display : Fields) (s : Snapshot) (limit : Value) :
    Except Fault HistoryPanel := do
  let n ← count limit
  let chars := (settings.entry? display "output_preview_chars").getD (.int 100)
  let rows ← (lastEntries n s.history).mapM fun e => do
    return { e with output := preview e.output (← previewLimit chars e.output) }
  return { rows, total := s.history.length }

end Settings
end GitPractice
