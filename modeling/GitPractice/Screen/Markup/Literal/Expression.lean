import GitPractice.Screen.Markup.Literal.Format
import GitPractice.Screen.Markup.Literal.Grammar

/-!
# Reading expressions

A text is read as an expression, and if there is none, it is read once more to
find out why. If no mistake is found then, the syntax is just invalid. A mistake
counts less than what is wrong with the tokens behind it, as those are looked at
to the end.
-/

namespace GitPractice
namespace Literal

/-- How tokens are looked at. -/
structure Look where
  /-- What the whole text must be. -/
  goal : (Rule → Parser Expr) → Parser Expr
  preface : String := ""

/-- The look at a whole literal. -/
def Look.atWhole : Look := { goal := Grammar.whole }

/-- The look at an expression inside of a text. What stands behind it does not matter. -/
def Look.atPart : Look := { goal := Grammar.starExpressions, preface := "f-string: " }

namespace Source

/-- How many tokens have been looked at when all have been. -/
def all (s : Source) : Nat := s.tokens.tokens.size

/-- The last of so many tokens. -/
def last? (s : Source) (seen : Nat) : Option Placed := s.tokens.tokens[seen - 1]?

/-- The line of the last token looked at. -/
def lastLine (s : Source) (seen : Nat) : Nat := ((s.last? seen).map (·.line)).getD 0

/-- What is told instead of a message after a look at the other tokens. -/
def afterAll (s : Source) (message : String) (seen : Nat) : String :=
  match s.tokens.stop with
  | some (.broken message) => message
  | some (.early _ (some (opener, line))) =>
    if line < s.lastLine seen then s.preface ++ neverClosed opener else message
  | _ => message

/-- What is told about a mistake. There is nothing left to look at once the end of the text has been seen. -/
def told (s : Source) (m : Mistake) : String :=
  if m.atStop || (s.last? m.seen).any (·.endsText) then m.message else s.afterAll m.message m.seen

/-- What is told when no mistake is found, by the last token that the first reading looked at. -/
def invalid (s : Source) (firstSeen secondSeen : Nat) : String :=
  match (s.last? firstSeen).map Placed.token with
  | some .indent => s.preface ++ "unexpected indent"
  | some .dedent => s.preface ++ "unexpected unindent"
  | _ => s.afterAll (s.preface ++ "invalid syntax") secondSeen

/-- More steps than reading takes: between two tokens every rule is used once at most. -/
def steps (s : Source) : Nat := 20 * (s.all + 2)

/-- Read the text once. -/
def attempt (s : Source) (goal : (Rule → Parser Expr) → Parser Expr) (checks : Bool) :
    Except Mistake (Option Expr × Progress) :=
  ((goal (Grammar.find s.steps)).run s).run.run { checks }

/-- The expression that the text holds, or what is wrong with it. -/
def expression (s : Source) (goal : (Rule → Parser Expr) → Parser Expr) : Except String Expr :=
  match s.attempt goal false with
  | .error m => .error (s.told m)
  | .ok (some e, _) => .ok e
  | .ok (none, first) =>
    match s.attempt goal true with
    | .error m => .error (s.told m)
    | .ok (_, second) => .error (s.invalid first.seen second.seen)

end Source

/-- Read a text that begins on the given line. Texts with expressions in them stand inside each other at most
so deep. -/
def read : Nat → Look → Nat → List Char → Except String Expr
  | 0, _, _, _ => .error "invalid syntax"
  | nesting + 1, look, line, cs =>
    let inner (line : Nat) (cs : List Char) : Option String :=
      match read nesting .atPart line cs with
      | .error message => some message
      | .ok _ => none
    let failure? (line : Nat) (t : Quotation) : Option String :=
      if t.isFormatted then
        (Format.flaw? { isRaw := t.isRaw, whole := t.body, line, failure? := inner }).map fun
          | .own message => look.preface ++ message
          | .inner message => message
      else t.failure?.map (look.preface ++ ·)
    Source.expression { tokens := tokens line cs, preface := look.preface, failure? } look.goal

/-- How deep texts can stand inside each other, as each has to be in quotes of its own. -/
def maxNesting : Nat := 5

/-- The expression that a text holds, or what is wrong with its syntax. -/
def expression (cs : List Char) : Except String Expr :=
  if cs.contains '\x00' then .error "source code string cannot contain null bytes"
  else read maxNesting .atWhole 1 (withLineEnds cs)

end Literal
end GitPractice
