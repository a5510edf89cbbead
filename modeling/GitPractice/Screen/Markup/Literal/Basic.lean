import GitPractice.Screen.Markup.Literal.Expression

/-!
# Literals

An expression is a literal if it is made of numbers, texts, truth values, tuples,
sets and dictionaries. The items of a set and the keys of a dictionary are looked
up by their value, so they must not be sets or dictionaries, nor hold any.
-/

namespace GitPractice
namespace Literal

/-- Why a text is no literal. -/
inductive Failure where
  /-- It is no expression. -/
  | syntaxError (message : String)
  /-- It is an expression that is no literal. -/
  | noLiteral
  /-- An entry without a key. -/
  | noKey
  /-- A value of this kind is looked up. -/
  | unhashable (kind : String)
  /-- A whole number is too large for a complex one. -/
  | tooLarge
deriving DecidableEq

namespace Failure

def message : Failure → String
  | syntaxError message => message
  | noLiteral => "malformed node or string"
  | noKey => "malformed node or string: None"
  | unhashable kind => "unhashable type: '" ++ kind ++ "'"
  | tooLarge => "int too large to convert to float"

end Failure

/-- What a literal may be looked up by: its value, or nothing as it is of the given kind. -/
abbrev Identity := Option String

def lookedUp : Identity → Except Failure Unit
  | none => .ok ()
  | some kind => .error (.unhashable kind)

/-- Whether an expression is a number without a sign, and which one. -/
def number? : Expr → Option Number
  | .number n => some n
  | _ => none

/-- The same with at most one sign. -/
def signedNumber? : Expr → Option Number
  | .signed e => number? e
  | e => number? e

/-- Check that a sum is a complex number: of a number that is not imaginary and one that is. -/
def checkSum (left right : Expr) : Except Failure Unit :=
  match signedNumber? left, number? right with
  | some real, some imaginary =>
    if real.imaginary || !imaginary.imaginary then .error .noLiteral
    else if real.isHuge then .error .tooLarge
    else .ok ()
  | _, _ => .error .noLiteral

mutual

/-- Check that an expression is a literal. -/
def check : Expr → Except Failure Identity
  | .number _ => .ok none
  | .text => .ok none
  | .constant _ => .ok none
  | .dots => .ok none
  | .tuple items => checkItems items
  | .set items => do
    checkMembers items
    return some "set"
  | .dictionary entries => do
    checkEntries entries
    return some "dict"
  | .call (.name "set") false => .ok (some "set")
  | .signed e => if (number? e).isSome then .ok none else .error .noLiteral
  | .sum left right => do
    checkSum left right
    return none
  | _ => .error .noLiteral

/-- A tuple can be looked up if all of its items can. -/
def checkItems : List Expr → Except Failure Identity
  | [] => .ok none
  | e :: es => do
    let first ← check e
    let others ← checkItems es
    return first.or others

def checkMembers : List Expr → Except Failure Unit
  | [] => .ok ()
  | e :: es => do
    lookedUp (← check e)
    checkMembers es

def checkEntries : List (Option Expr × Expr) → Except Failure Unit
  | [] => .ok ()
  | (none, _) :: _ => .error .noKey
  | (some key, e) :: rest => do
    let identity ← check key
    let _ ← check e
    lookedUp identity
    checkEntries rest

end

/-- Why a text is no literal, if it is none. -/
def failure? (text : String) : Option Failure :=
  match expression text.toList with
  | .error message => some (.syntaxError message)
  | .ok e =>
    match check e with
    | .error failure => some failure
    | .ok _ => none

end Literal
end GitPractice
