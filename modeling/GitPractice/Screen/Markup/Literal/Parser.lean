import GitPractice.Screen.Markup.Literal.Expr
import Std.Data.HashMap

/-!
# Parsing by ordered choice

A rule of a grammar is tried at a place among the tokens and either finds
something and moves on, or finds nothing. Of several ways the first that finds
something counts. What the main rules have found at a place is kept, so that no
way is gone twice, and for a rule that begins with itself what is kept grows until
it grows no more.

A text is read twice if the first time nothing is found. The second time some
rules also look for mistakes and tell them. What is kept does not depend on that,
so a mistake is told only where it is met with for the first time. Tokens are
looked at one by one, and what is wrong behind the last of them is told when a
rule gets there.
-/

namespace GitPractice
namespace Literal

/-- The rules whose findings are kept. -/
inductive Rule where
  | expression | starExpression | disjunction | conjunction | inversion | bitwiseOr | bitwiseXor | bitwiseAnd
  | shift | sum | term | factor | awaited | primary | texts | arguments | target | plainTarget | targetStart
  | misnamed
deriving DecidableEq, Hashable, Inhabited

/-- What a text is cut into, and how it is read. -/
structure Source where
  tokens : Tokens
  /-- What stands before all that is told about this text. -/
  preface : String := ""
  /-- What is wrong with a quoted text that begins on the given line. -/
  failure? : Nat → Quotation → Option String

/-- What a rule has found, with the place behind that. -/
abbrev Finding := Option Expr × Nat

structure Progress where
  place : Nat := 0
  /-- How many tokens have been looked at. -/
  seen : Nat := 0
  kept : Std.HashMap (Rule × Nat) Finding := {}
  /-- Whether mistakes are looked for. -/
  checks : Bool := false

/-- A mistake, with the number of tokens that had been looked at. -/
structure Mistake where
  message : String
  seen : Nat
  /-- Whether the tokens came to an end. -/
  atStop : Bool := false

abbrev Parser := ReaderT Source (OptionT (StateT Progress (Except Mistake)))

namespace Parser

/-- Find nothing. -/
def nothing {α : Type} : Parser α := failure

/-- Tell a mistake. -/
def mistake {α : Type} (message : String) : Parser α := do
  let source ← read
  let progress ← get
  let told : Mistake := { message := source.preface ++ message, seen := progress.seen }
  throwThe Mistake told

/-- The token at the present place. -/
def peek : Parser Token := do
  let source ← read
  let progress ← get
  match source.tokens.tokens[progress.place]?, source.tokens.stop with
  | some placed, _ =>
    set { progress with seen := max progress.seen (progress.place + 1) }
    return placed.token
  | none, none => return .over
  | none, some why =>
    let (message, preface) := match why with
      | .broken message => (message, "")
      | .early message _ => (message, source.preface)
    throwThe Mistake { message := preface ++ message, seen := progress.seen, atStop := true }

def advance : Parser Unit := modify fun progress => { progress with place := progress.place + 1 }

/-- Take the token if it is this one. -/
def token (t : Token) : Parser Unit := do
  unless (← peek) = t do nothing
  advance

def sign (s : String) : Parser Unit := token (.sign s)

def word (s : String) : Parser Unit := token (.name s)

/-- Try something at the present place. If it finds nothing, the place stays the same. -/
def attempt {α : Type} (p : Parser α) : Parser (Option α) := do
  let place := (← get).place
  let found ← (some <$> p) <|> pure none
  if found.isNone then modify fun progress => { progress with place }
  return found

/-- Of several ways the first that finds something. -/
def choice {α : Type} : List (Parser α) → Parser α
  | [] => nothing
  | p :: ps => do
    match ← attempt p with
    | some a => return a
    | none => choice ps

/-- Look whether something is found here, and stay. -/
def isAhead {α : Type} (p : Parser α) : Parser Bool := do
  let place := (← get).place
  let found ← attempt p
  modify fun progress => { progress with place }
  return found.isSome

def ahead {α : Type} (p : Parser α) : Parser Unit := do
  unless ← isAhead p do nothing

def notAhead {α : Type} (p : Parser α) : Parser Unit := do
  if ← isAhead p then nothing

/-- Something as often as it is found. Each time takes a token, so their number bounds the steps. -/
def many {α : Type} (p : Parser α) : Parser (List α) := do
  repeated p ((← read).tokens.tokens.size + 1)
where
  repeated {α : Type} (p : Parser α) : Nat → Parser (List α)
    | 0 => return []
    | fuel + 1 => do
      match ← attempt p with
      | some a => return a :: (← repeated p fuel)
      | none => return []

def manyOne {α : Type} (p : Parser α) : Parser (List α) := do
  let first ← p
  return first :: (← many p)

/-- Something as often as it is found, with commas between. -/
def listed {α : Type} (p : Parser α) : Parser (List α) := do
  let first ← p
  return first :: (← many (sign "," *> p))

/-- Look for mistakes, if they are looked for, and find nothing. The first of them that is met with ends the
search, whether it is told or not. -/
def checking {α : Type} (mistakes : List (Parser Unit)) : Parser α := do
  if (← get).checks then
    let _ ← attempt (choice mistakes)
  nothing

/-- Read something without looking for mistakes. -/
def unchecked {α : Type} (p : Parser α) : Parser α := do
  let checks := (← get).checks
  modify fun progress => { progress with checks := false }
  let found ← (some <$> p) <|> pure none
  modify fun progress => { progress with checks }
  match found with
  | some a => return a
  | none => nothing

/-- How many brackets are open behind the last token taken. -/
def depth : Parser Nat := do
  let place := (← get).place
  return (((← read).tokens.tokens[place - 1]?).map (·.depth)).getD 0

def keep (rule : Rule) (place : Nat) (finding : Finding) : Parser Unit :=
  modify fun progress => { progress with kept := progress.kept.insert (rule, place) finding }

/-- Go where a finding ends. -/
def follow (finding : Finding) : Parser Expr := do
  modify fun progress => { progress with place := finding.2 }
  match finding.1 with
  | some e => return e
  | none => nothing

/-- Find what the rule finds here, or what has been kept of that. -/
def remember (rule : Rule) (p : Parser Expr) : Parser Expr := do
  let _ ← peek
  let place := (← get).place
  match (← get).kept[(rule, place)]? with
  | some finding => follow finding
  | none =>
    let found ← attempt p
    keep rule place (found, (← get).place)
    match found with
    | some e => return e
    | none => nothing

/-- Let what is kept of a rule grow, which may begin with itself. Each time it ends behind more tokens. -/
def grow (rule : Rule) (p : Parser Expr) (place : Nat) : Nat → Finding → Parser Expr
  | 0, finding => follow finding
  | fuel + 1, finding => do
    keep rule place finding
    modify fun progress => { progress with place }
    match ← attempt p with
    | some e =>
      let stop := (← get).place
      if stop ≤ finding.2 then follow finding else grow rule p place fuel (some e, stop)
    | none => follow finding

/-- The same for a rule that may begin with itself. -/
def growing (rule : Rule) (p : Parser Expr) : Parser Expr := do
  let _ ← peek
  let place := (← get).place
  match (← get).kept[(rule, place)]? with
  | some finding => follow finding
  | none => grow rule p place ((← read).tokens.tokens.size + 2) (none, place)

end Parser
end Literal
end GitPractice
