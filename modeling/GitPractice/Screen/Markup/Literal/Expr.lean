import GitPractice.Screen.Markup.Literal.Token

/-!
# Expressions

What a literal may be is read as an expression first. An expression keeps its
parts only as far as they decide whether it is a literal, or what is said when
something is assigned to it.
-/

namespace GitPractice
namespace Literal

inductive Expr where
  | number (n : Number)
  | text
  | formattedText
  /-- One of the words for a truth value or for nothing. -/
  | constant (word : String)
  | dots
  | name (s : String)
  | tuple (items : List Expr)
  | set (items : List Expr)
  /-- Keys with their values; an entry without a key takes over those of another dictionary. -/
  | dictionary (entries : List (Option Expr × Expr))
  | member
  /-- A call, with arguments or without. -/
  | call (function : Expr) (hasArguments : Bool)
  | starred (e : Expr)
  /-- A plus or minus sign in front. -/
  | signed (e : Expr)
  /-- A sum or difference. -/
  | sum (left right : Expr)
  /-- A comparison by its left side, and whether it asks if that is in something. -/
  | comparison (left : Expr) (isIn : Bool)
  /-- What no literal is made of, by its kind. -/
  | other (kind : String)
  /-- The arguments of a call: how many have no name, and whether others come from a dictionary. -/
  | arguments (unnamed : Nat) (unpacks : Bool)
deriving Inhabited

namespace Expr

/-- What an expression is called where something cannot be assigned to it. -/
def kind : Expr → String
  | number _ => "literal"
  | text => "literal"
  | formattedText => "f-string expression"
  | constant word => word
  | dots => "ellipsis"
  | name _ => "name"
  | tuple _ => "tuple"
  | set _ => "set display"
  | dictionary _ => "dict literal"
  | member => "attribute"
  | call _ _ => "function call"
  | starred _ => "starred"
  | signed _ => "expression"
  | sum _ _ => "expression"
  | comparison _ _ => "comparison"
  | other kind => kind
  | arguments _ _ => "function call"

/-- What operators make of their operands. -/
def operation : Expr := other "expression"

mutual

/-- The part of an expression behind `for` that nothing can be assigned to. What looks like a test whether
something is in something begins with what is assigned to. -/
def wrongTarget? : Expr → Option Expr
  | tuple items => wrongTargetIn? items
  | starred e => wrongTarget? e
  | comparison left isIn => if isIn then wrongTarget? left else none
  | name _ => none
  | member => none
  | e => some e

def wrongTargetIn? : List Expr → Option Expr
  | [] => none
  | e :: es => (wrongTarget? e).or (wrongTargetIn? es)

end

end Expr
end Literal
end GitPractice
