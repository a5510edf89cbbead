import GitPractice.Fault
import GitPractice.Text.Blank
import GitPractice.Value.Basic

/-!
# Writing JSON

Two layouts: everything on one line, with `", "` and `": "` as separators, or
one entry a line with indentation. Only the characters that JSON forbids inside
a text are escaped, unless plain ASCII is asked for. Keys that are no texts are
written as the text of what they are, so two keys may look alike. Values of kinds
that JSON lacks cannot be written; `check` says so beforehand.
-/

namespace GitPractice
namespace Json

def hexDigit (n : Nat) : Char :=
  if n % 16 < 10 then Char.ofNat (48 + n % 16) else Char.ofNat (87 + n % 16)

/-- A code unit of UTF-16 as an escape. -/
def escapeUnit (n : Nat) : List Char :=
  ['\\', 'u', hexDigit (n / 4096), hexDigit (n / 256), hexDigit (n / 16), hexDigit n]

/-- The one or two units of UTF-16. -/
def escapeChar (c : Char) : List Char :=
  let n := c.toNat
  if n < 0x10000 then escapeUnit n
  else escapeUnit (0xd800 + (n - 0x10000) / 0x400) ++ escapeUnit (0xdc00 + (n - 0x10000) % 0x400)

/-- The written form of a character inside a text. -/
def encodeChar (ascii : Bool) (c : Char) : List Char :=
  if c = '"' then ['\\', '"']
  else if c = '\\' then ['\\', '\\']
  else if c = '\n' then ['\\', 'n']
  else if c = '\r' then ['\\', 'r']
  else if c = '\t' then ['\\', 't']
  else if c = '\x0c' then ['\\', 'f']
  else if c = '\x08' then ['\\', 'b']
  else if c.toNat < 32 then escapeUnit c.toNat
  else if ascii && 126 < c.toNat then escapeChar c
  else [c]

def quote (ascii : Bool) (s : String) : List Char :=
  '"' :: s.toList.flatMap (encodeChar ascii) ++ ['"']

/-- Code points inside a text; a half of a surrogate pair is always escaped. -/
def quotePoints (ascii : Bool) (points : List Nat) : List Char :=
  '"' :: points.flatMap (fun n =>
    if Text.isHalf n then escapeUnit n else encodeChar ascii (Char.ofNat n)) ++ ['"']

def realText (x : Real64) : String := x.text { infinity := "Infinity", nan := "NaN" }

/-- The text of a scalar that is no text itself. -/
def word : Scalar → List Char
  | .null => "null".toList
  | .bool true => "true".toList
  | .bool false => "false".toList
  | .int n => (toString n).toList
  | .real x => (realText x).toList
  | _ => []

def scalar (ascii : Bool) : Scalar → List Char
  | .text s => quote ascii s
  | .unpaired points => quotePoints ascii points
  | a => word a

def key (ascii : Bool) : Scalar → List Char
  | .text s => quote ascii s
  | .unpaired points => quotePoints ascii points
  | a => '"' :: word a ++ ['"']

mutual

/-- A value on one line. -/
def compact (ascii : Bool) : Value → List Char
  | .atom a => scalar ascii a
  | .list items => '[' :: compactItems ascii items ++ [']']
  | .pair first second => '[' :: compact ascii first ++ ',' :: ' ' :: compact ascii second ++ [']']
  | .record fields => '\x7b' :: compactFields ascii fields ++ ['\x7d']
  | .set _ => []
  | .shared _ => []
  | .recurrence _ => []

def compactItems (ascii : Bool) : List Value → List Char
  | [] => []
  | [v] => compact ascii v
  | v :: w :: rest => compact ascii v ++ ',' :: ' ' :: compactItems ascii (w :: rest)

def compactFields (ascii : Bool) : List (Scalar × Value) → List Char
  | [] => []
  | [(k, v)] => key ascii k ++ ':' :: ' ' :: compact ascii v
  | (k, v) :: f :: rest =>
    key ascii k ++ ':' :: ' ' :: compact ascii v ++ ',' :: ' ' :: compactFields ascii (f :: rest)

end

/-- The start of a line at the given depth. -/
def newLine (depth : Nat) : List Char := '\n' :: List.replicate (2 * depth) ' '

mutual

/-- A value with an entry a line, each level two places further in. -/
def indented (ascii : Bool) (depth : Nat) : Value → List Char
  | .atom a => scalar ascii a
  | .list [] => ['[', ']']
  | .list items => '[' :: indentedItems ascii (depth + 1) items ++ newLine depth ++ [']']
  | .pair first second =>
    '[' :: newLine (depth + 1) ++ indented ascii (depth + 1) first ++ ',' :: newLine (depth + 1) ++
      indented ascii (depth + 1) second ++ newLine depth ++ [']']
  | .record [] => ['\x7b', '\x7d']
  | .record fields => '\x7b' :: indentedFields ascii (depth + 1) fields ++ newLine depth ++ ['\x7d']
  | .set _ => []
  | .shared _ => []
  | .recurrence _ => []

def indentedItems (ascii : Bool) (depth : Nat) : List Value → List Char
  | [] => []
  | [v] => newLine depth ++ indented ascii depth v
  | v :: w :: rest =>
    newLine depth ++ indented ascii depth v ++ ',' :: indentedItems ascii depth (w :: rest)

def indentedFields (ascii : Bool) (depth : Nat) : List (Scalar × Value) → List Char
  | [] => []
  | [(k, v)] => newLine depth ++ key ascii k ++ ':' :: ' ' :: indented ascii depth v
  | (k, v) :: f :: rest =>
    newLine depth ++ key ascii k ++ ':' :: ' ' :: indented ascii depth v ++
      ',' :: indentedFields ascii depth (f :: rest)

end

/-- Whether a scalar is of a kind that JSON has. Numbers with too many digits are not written out. -/
def checkScalar : Scalar → Except Fault Unit
  | .bytes _ => .error .wrongKind
  | .date _ => .error .wrongKind
  | .time _ => .error .wrongKind
  | .moment _ => .error .wrongKind
  | a => if a.isTooLong then .error .integerTooLarge else .ok ()

mutual

/-- Whether a value can be written, all of its parts in their order. -/
def check : Value → Except Fault Unit
  | .atom a => checkScalar a
  | .list items => checkItems items
  | .pair first second => do
    check first
    check second
  | .record fields => checkFields fields
  | .set _ => .error .wrongKind
  | .shared _ => .error .wrongKind
  | .recurrence _ => .error .circular

def checkItems : List Value → Except Fault Unit
  | [] => .ok ()
  | v :: rest => do
    check v
    checkItems rest

def checkFields : List (Scalar × Value) → Except Fault Unit
  | [] => .ok ()
  | (k, v) :: rest => do
    checkScalar k
    check v
    checkFields rest

end

def unpaired? : Scalar → Option (List Nat)
  | .unpaired points => some points
  | _ => none

mutual

/-- The first text in the value that cannot be encoded. -/
def findUnpaired? : Value → Option (List Nat)
  | .atom a => unpaired? a
  | .list items => findUnpairedItem? items
  | .pair first second => (findUnpaired? first).or (findUnpaired? second)
  | .set members => members.findSome? unpaired?
  | .record fields => findUnpairedField? fields
  | .shared _ => none
  | .recurrence _ => none

def findUnpairedItem? : List Value → Option (List Nat)
  | [] => none
  | v :: rest => (findUnpaired? v).or (findUnpairedItem? rest)

def findUnpairedField? : List (Scalar × Value) → Option (List Nat)
  | [] => none
  | (k, v) :: rest => ((unpaired? k).or (findUnpaired? v)).or (findUnpairedField? rest)

end

/-- Whether a value can be put out with all characters as they are: it is written first and encoded
then. -/
def checkOutput (v : Value) : Except Fault Unit := do
  check v
  match findUnpaired? v with
  | some points => .error (.unencodable points)
  | none => return ()

/-- A value on one line, all characters as they are. -/
def print (v : Value) : String := String.ofList (compact false v)

/-- A value on many lines, all characters as they are. -/
def printIndented (v : Value) : String := String.ofList (indented false 0 v)

end Json
end GitPractice
