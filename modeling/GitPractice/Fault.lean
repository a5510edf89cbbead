import GitPractice.Screen.Markup.Basic
import GitPractice.Text.Half

/-!
# Faults

What can go wrong inside the program itself, as opposed to a command that is
answered with a failure. A fault ends the operation in which it arises; what was
printed before stays printed.
-/

namespace GitPractice

inductive Fault where
  /-- Something is looked up in a value of another kind than a record. -/
  | noRecord (kind lookup : String)
  /-- Two values have no order. -/
  | notComparable (operator left right : String)
  /-- A number counts something and is not whole. -/
  | notWhole
  /-- A value is of a kind that cannot be used. -/
  | wrongKind
  /-- A script holds bytes that are no text. -/
  | notText
  /-- Text for a table is wrong as markup. -/
  | markup (error : Markup.Error)
  /-- A text of digits that is no number. -/
  | malformedInteger (text : String)
  /-- A number of more digits than are read. -/
  | integerTooLong (digits : Nat)
  /-- A level of logging that there is not. -/
  | unknownLevel (level : String)
  /-- A format for log lines without a field. -/
  | invalidFormat (format : String)
  /-- A number with more digits than are written. -/
  | integerTooLarge
  /-- A value that stands inside itself. -/
  | circular
  /-- A text with half a surrogate pair in it, by its code points. -/
  | unencodable (points : List Nat)
  /-- A number for a character beyond all of them. -/
  | codeTooLarge
  /-- A whole number is too large to become one with a fraction. -/
  | integerBeyondReals
  /-- A number is tagged and has no digits. -/
  | emptyNumber
  /-- A truth value is tagged and is no word for one. -/
  | unknownTruth (word : String)
  /-- A moment is tagged and does not look like one. -/
  | noMoment
  /-- A path has a name on it that is too long for a file. -/
  | unreachable
  /-- A path with a character in it that ends every path. -/
  | nulInPath
  /-- The home directory is that of another user. -/
  | noHome
  /-- Values stand inside each other deeper than is read, the innermost one in this bracket if that is known. -/
  | tooDeep (bracket : Option Char)
deriving DecidableEq

namespace Fault

/-- The fault in a component of a colour. As these have digits only, one that is no number is empty. -/
def ofComponent : Text.IntegerError → Fault
  | .malformed => .malformedInteger ""
  | .tooLong digits => .integerTooLong digits

/-- What is told about something looked up in a value of the wrong kind. -/
def noRecordText (kind lookup : String) : String :=
  "'" ++ kind ++ "' object has no attribute '" ++ lookup ++ "'"

/-- What is told about a fault. -/
def message : Fault → String
  | noRecord kind lookup => noRecordText kind lookup
  | notComparable operator left right =>
    "'" ++ operator ++ "' not supported between instances of '" ++ left ++ "' and '" ++ right ++ "'"
  | notWhole => "slice indices must be integers or None or have an __index__ method"
  | wrongKind => "unusable value"
  | notText => "invalid text"
  | markup error => error.message
  | malformedInteger text =>
    "invalid literal for int() with base 10: " ++ Text.take (Text.quoted text) 200
  | integerTooLong digits =>
    "Exceeds the limit (4300 digits) for integer string conversion: value has " ++
      toString digits ++ " digits; use sys.set_int_max_str_digits() to increase the limit"
  | unknownLevel level => "Unknown level: " ++ Text.quoted level
  | invalidFormat format => "Invalid format '" ++ format ++ "' for '%' style"
  | integerTooLarge => "Exceeds the limit (4300 digits) for integer string conversion; use sys.set_int_max_str_digits() to increase the limit"
  | circular => "Circular reference detected"
  | unencodable points => Text.encodingFailure points
  | codeTooLarge => "code too large"
  | integerBeyondReals => "int too large to convert to float"
  | emptyNumber => "number without digits"
  | unknownTruth word => Text.quoted word
  | noMoment => noRecordText "NoneType" "groupdict"
  | unreachable => "File name too long"
  | nulInPath => "embedded null byte"
  | noHome => "Could not determine home directory."
  | tooDeep none => tooDeepText
  | tooDeep (some bracket) =>
    tooDeepText ++ " while decoding a JSON " ++ (if bracket = '[' then "array" else "object") ++
      " from a unicode string"
where
  tooDeepText : String := "maximum recursion depth exceeded"

end Fault

/-- What has come to an end was not stopped on the way. -/
theorem exists_of_bind_ok {ε α β : Type} {x : Except ε α} {f : α → Except ε β} {b : β} (h : x >>= f = .ok b) :
    ∃ a, x = .ok a ∧ f a = .ok b := by
  cases x with
  | error cause => cases h
  | ok a => exact ⟨a, rfl, h⟩

end GitPractice
