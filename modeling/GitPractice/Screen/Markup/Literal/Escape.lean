import GitPractice.Screen.Markup.Literal.Token
import GitPractice.Text.CharacterName

/-!
# Escapes in literals

A backslash in a quoted text begins an escape. Most of them cannot go wrong: one
that is not known stands for itself. But the number of a character must have all
of its digits, and a name must be one.
-/

namespace GitPractice
namespace Literal

def isHexDigit (c : Char) : Bool := c.isDigit || 'a' ≤ c.toLower && c.toLower ≤ 'f'

/-- A character outside of ASCII as an escape, for which places in a text are counted. -/
def longEscape (c : Char) : List Char :=
  let digits := Nat.toDigits 16 c.toNat
  '\\' :: 'U' :: List.replicate (8 - digits.length) '0' ++ digits

/-- A text in ASCII alone. A backslash before another character stands for itself. -/
def asciiForm : List Char → List Char
  | [] => []
  | ['\\'] => "\\u005c".toList
  | '\\' :: c :: cs =>
    if 0x80 ≤ c.toNat then "\\u005c".toList ++ longEscape c ++ asciiForm cs else '\\' :: c :: asciiForm cs
  | c :: cs => if 0x80 ≤ c.toNat then longEscape c ++ asciiForm cs else c :: asciiForm cs

/-- What is wrong with an escape: where it begins, how many characters of it have been read, and why. -/
structure BadEscape where
  start : Nat
  length : Nat
  reason : String
deriving DecidableEq

/-- Check the digits of an escape by number: how many are read, and whether it is wrong with them. -/
def checkDigits (count : Nat) (reason : String) (cs : List Char) : Option (Nat × String) :=
  let digits := (cs.take count).takeWhile isHexDigit
  if digits.length < count then some (digits.length, reason)
  else if 0x10ffff < digitsValue 16 digits then some (count, "illegal Unicode character")
  else none

/-- Check an escape by name behind its letter. -/
def checkName (cs : List Char) : Option (Nat × String) :=
  let malformed := "malformed \\N character escape"
  match cs with
  | '\x7b' :: rest =>
    let name := rest.takeWhile (· ≠ '\x7d')
    if name.length = rest.length || name.isEmpty then some (1 + name.length, malformed)
    else if Text.isCharacterName (String.ofList name) then none
    else some (2 + name.length, "unknown Unicode character name")
  | _ => some (0, malformed)

/-- Check an escape behind its backslash and this letter. -/
def checkEscape (letter : Char) (cs : List Char) : Option (Nat × String) :=
  match letter with
  | 'x' => checkDigits 2 "truncated \\xXX escape" cs
  | 'u' => checkDigits 4 "truncated \\uXXXX escape" cs
  | 'U' => checkDigits 8 "truncated \\UXXXXXXXX escape" cs
  | 'N' => checkName cs
  | _ => none

/-- The first escape that is wrong in a text in ASCII. -/
def badEscape? (place : Nat) : List Char → Option BadEscape
  | [] => none
  | '\\' :: letter :: cs =>
    match checkEscape letter cs with
    | some (length, reason) => some { start := place, length := 2 + length, reason }
    | none => badEscape? (place + 2) cs
  | _ :: cs => badEscape? (place + 1) cs

/-- Why the escapes of a text cannot be read. -/
def escapeFailure? (body : List Char) : Option String :=
  (badEscape? 0 (asciiForm body)).map fun bad =>
    "(unicode error) 'unicodeescape' codec can't decode bytes in position " ++ toString bad.start ++ "-" ++
      toString (bad.start + bad.length - 1) ++ ": " ++ bad.reason

/-- The place of the first number in bytes that lacks digits. -/
def badByte? (place : Nat) : List Char → Option Nat
  | [] => none
  | '\\' :: 'x' :: cs => if ((cs.take 2).filter isHexDigit).length < 2 then some place else badByte? (place + 2) cs
  | '\\' :: _ :: cs => badByte? (place + 2) cs
  | _ :: cs => badByte? (place + 1) cs

/-- Why the escapes of bytes cannot be read. -/
def byteFailure? (body : List Char) : Option String :=
  (badByte? 0 body).map fun place => "(value error) invalid \\x escape at position " ++ toString place

/-- Why a text without expressions in it cannot be read. -/
def Quotation.failure? (t : Quotation) : Option String :=
  if t.isBytes then
    if t.body.any fun c => 0x80 ≤ c.toNat then some "bytes can only contain ASCII literal characters"
    else if t.isRaw then none else byteFailure? t.body
  else if t.isRaw then none
  else escapeFailure? t.body

end Literal
end GitPractice
