import GitPractice.Settings.Basic
import GitPractice.Text.Case
import GitPractice.Text.Numeral

/-!
# Layers of settings

Settings are put together in layers. A later layer is merged into the earlier
ones record by record, and any other value replaces what was there. The last
layer is the environment: the variable `GITSIM_DISPLAY_HISTORY_LIMIT` sets the
entry `history_limit` of the section `display`. As names may hold underscores
themselves, the longest name that fits is taken at every level, and a variable
that names no entry does nothing. What stands at several places is set at all of
them.
-/

namespace GitPractice
namespace Settings

mutual

/-- Merge the entries of a layer into those before it. -/
def merge : Fields → Fields → Fields
  | base, [] => base
  | base, (key, value) :: rest => merge (base.set key (mergeValue (base.get? key) value)) rest

/-- What a value becomes where another one may have been before. -/
def mergeValue : Option Value → Value → Value
  | some (.record base), .record fields => .record (merge base fields)
  | _, value => value

end

theorem sizeOf_lt_of_get? {fields inner : Fields} {key : Scalar}
    (h : Fields.get? key fields = some (.record inner)) : sizeOf inner < sizeOf fields := by
  induction fields with
  | nil => simp [Fields.get?] at h
  | cons entry rest ih =>
    obtain ⟨k, v⟩ := entry
    by_cases hk : k.same key = true
    · simp only [Fields.get?, hk, if_true, Option.some.injEq] at h
      subst h
      simp
      omega
    · simp only [Fields.get?, hk] at h
      have := ih h
      simp
      omega

/-- Put the records of a layer in their places that are merged into others. -/
def openFor (parts : Parts) (base layer : Fields) : Fields :=
  layer.map fun (key, value) =>
    match _h : base.get? key, parts.head value with
    | some (.record inner), .record fields => (key, .record (openFor parts inner fields))
    | _, _ => (key, value)
termination_by sizeOf base
decreasing_by exact sizeOf_lt_of_get? _h

/-- Settings out of two layers, the parts being those of the second one. -/
def ofLayers (base layer : Fields) (parts : Parts) : Settings :=
  { fields := merge base (openFor parts base layer), parts }

/-- The parts between underscores. -/
def splitUnderscores : List Char → List (List Char)
  | [] => [[]]
  | c :: cs =>
    if c = '_' then [] :: splitUnderscores cs
    else
      match splitUnderscores cs with
      | part :: parts => (c :: part) :: parts
      | [] => [[c]]

def nameParts (name : String) : List String := (splitUnderscores name.toList).map String.ofList

/-- Of the names that the parts begin with, the one with the most parts; the first of several. -/
def bestName (parts : List String) : List String → Option String
  | [] => none
  | name :: names =>
    if (nameParts name).isPrefixOf parts then
      match bestName parts names with
      | some other => if (nameParts name).length < (nameParts other).length then some other else some name
      | none => some name
    else bestName parts names

/-- The names among the keys of a section. A key that is no text cannot be taken apart at underscores. -/
def names : List Scalar → Except Fault (List String)
  | [] => .ok []
  | .text name :: keys => (names keys).map (name :: ·)
  | .unpaired _ :: keys => names keys
  | .bytes _ :: _ => .error .wrongKind
  | key :: _ => .error (.noRecord key.kindName "split")

/-- Where the parts of a name lead. -/
inductive Target where
  | nowhere
  /-- To an entry, in the record below these names. -/
  | entry (place : List String) (name : String)
  /-- Into a part by its number, with what is left of them. -/
  | part (n : Nat) (rest : List String)
deriving DecidableEq

namespace Target

/-- The same place seen from one level further up. -/
def below (name : String) : Target → Target
  | entry place last => entry (name :: place) last
  | target => target

end Target

/-- Where the parts lead. Every level takes at least one part, so there are at most as many levels as
parts. -/
def targetWithin : Nat → Fields → List String → Except Fault Target
  | 0, _, _ => .ok .nowhere
  | levels + 1, fields, parts => do
    match bestName parts (← names fields.keys) with
    | none => return .nowhere
    | some name =>
      match parts.drop (nameParts name).length, fields.get? name with
      | [], _ => return .entry [] name
      | rest, some (.record inner) => return (← targetWithin levels inner rest).below name
      | rest, some (.shared n) => return .part n rest
      | _, _ => return .nowhere

def target (fields : Fields) (parts : List String) : Except Fault Target :=
  targetWithin parts.length fields parts

/-- Set an entry of the record below some names. -/
def setAt (place : List String) (name : String) (value : Value) (fields : Fields) : Fields :=
  match place with
  | [] => fields.set name value
  | first :: place =>
    match fields.get? first with
    | some (.record inner) => fields.set first (.record (setAt place name value inner))
    | _ => fields

/-- Set the entry that the parts spell out. -/
def assign (fields : Fields) (parts : List String) (value : Value) : Except Fault Fields := do
  match ← target fields parts with
  | .entry place name => return setAt place name value fields
  | _ => return fields

/-- Set the entry that the parts spell out from a part on. -/
def assignPart (value : Value) : Nat → Parts → Nat → List String → Except Fault Parts
  | 0, parts, _, _ => .ok parts
  | levels + 1, parts, n, rest =>
    match parts.content n with
    | .record fields => do
      match ← target fields rest with
      | .part m rest => assignPart value levels parts m rest
      | _ => return parts.setIfInBounds n (.record (← assign fields rest value))
    | _ => .ok parts

/-- Set the entry of settings that the parts spell out, wherever its record stands. -/
def assignEntry (settings : Settings) (parts : List String) (value : Value) : Except Fault Settings := do
  match ← target settings.fields parts with
  | .part n rest => return { settings with parts := ← assignPart value parts.length settings.parts n rest }
  | _ => return { settings with fields := ← assign settings.fields parts value }

/-- Words that stand for true. -/
def yesWords : List String := ["true", "yes", "on"]

/-- Words that stand for false. -/
def noWords : List String := ["false", "no", "off"]

/-- Read a text all of whose characters count as digits. -/
def readDigitText (text : String) : Except Fault Int :=
  let digits := text.toList.takeWhile fun c => (Text.decimalValue? c).isSome
  if Text.maxIntegerDigits < digits.length then .error (.integerTooLong digits.length)
  else
    match Text.readInteger text with
    | .ok n => .ok n
    | .error _ => .error (.malformedInteger text)

/-- The value that the text of a variable stands for. -/
def coerce (text : String) : Except Fault Value :=
  let small := Text.lower text
  if yesWords.contains small then .ok (.bool true)
  else if noWords.contains small then .ok (.bool false)
  else if text ≠ "" && text.toList.all Text.isDigit then (readDigitText text).map Value.int
  else .ok (.text text)

/-- A variable of the environment. -/
abbrev Variable := String × String

/-- How the variables that are settings begin. -/
def variableStart : String := "GITSIM_"

/-- The variable that names the file of settings. -/
def fileVariable : String := "GITSIM_CONFIG"

/-- The variable that names the home directory. -/
def homeVariable : String := "HOME"

/-- Whether the variable sets an entry. -/
def isOverride (v : Variable) : Bool := Text.startsWith v.1 variableStart && v.1 ≠ fileVariable

/-- The parts that the name of a variable spells out. -/
def variableParts (name : String) : List String :=
  nameParts (Text.lower (String.ofList (name.toList.drop variableStart.length)))

def applyVariable (settings : Settings) (v : Variable) : Except Fault Settings :=
  if isOverride v then do settings.assignEntry (variableParts v.1) (← coerce v.2)
  else .ok settings

/-- Apply the variables in their order. -/
def applyEnvironment (settings : Settings) (environment : List Variable) : Except Fault Settings :=
  environment.foldlM applyVariable settings

end Settings
end GitPractice
