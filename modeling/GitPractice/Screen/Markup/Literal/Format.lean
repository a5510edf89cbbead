import GitPractice.Screen.Markup.Literal.Escape

/-!
# Texts with expressions in them

A formatted text holds expressions in curly brackets. Behind an expression may
stand an equals sign, a letter after an exclamation mark for how its value is
turned into a text, and after a colon how that is formatted, which may hold
expressions itself. Brackets that are written twice stand for themselves. Such a
text is no literal, so only what is wrong with it matters.
-/

namespace GitPractice
namespace Literal
namespace Format

/-- What is wrong with a text. -/
inductive Flaw where
  /-- The text is wrong by itself. -/
  | own (message : String)
  /-- An expression in it is wrong. -/
  | inner (message : String)
deriving DecidableEq

abbrev Checked (α : Type) := Except Flaw α

def flaw {α : Type} (message : String) : Checked α := .error (.own message)

/-- A text between expressions, with the rest. -/
structure Plain where
  rest : List Char
  /-- Whether the rest goes on with text, as a bracket was written twice. -/
  goesOn : Bool := false

def isCurly (c : Char) : Bool := c = '\x7b' || c = '\x7d'

/-- What stands behind a name for a character, or what has the place of one. -/
def skipName : List Char → List Char
  | '\x7b' :: cs => (cs.dropWhile (· ≠ '\x7d')).drop 1
  | _ :: cs => cs
  | [] => []

theorem length_skipName_le (cs : List Char) : (skipName cs).length ≤ cs.length := by
  unfold skipName
  split
  · have := (List.dropWhile_suffix (fun c => decide (c ≠ '\x7d')) (l := ‹List Char›)).length_le
    simp only [List.length_drop, List.length_cons]
    omega
  · simp
  · simp

/-- Read text up to an expression or to the end. Only outside of other expressions brackets are written
twice. -/
def readPlain (isRaw isOuter : Bool) (cs : List Char) : Checked Plain :=
  match cs with
  | [] => .ok { rest := [] }
  | c :: cs =>
    if c = '\\' && !isRaw then
      match cs with
      | [] => .ok { rest := [] }
      | 'N' :: rest => readPlain isRaw isOuter (skipName rest)
      | d :: rest => if isCurly d then bracket d rest else readPlain isRaw isOuter rest
    else if isCurly c then bracket c cs
    else readPlain isRaw isOuter cs
termination_by cs.length
decreasing_by
  · have := length_skipName_le rest
    simp only [List.length_cons]
    omega
  · simp only [List.length_cons]
    omega
  · simp only [List.length_cons]
    omega
where
  bracket (c : Char) (behind : List Char) : Checked Plain :=
    if isOuter && behind.head? = some c then .ok { rest := behind.drop 1, goesOn := true }
    else if isOuter && c = '\x7d' then flaw "f-string: single '\x7d' is not allowed"
    else .ok { rest := c :: behind }

/-- Check the escapes of the text before the rest. -/
def checkPlain (isRaw : Bool) (cs : List Char) (found : Plain) : Checked Unit :=
  let dropped := if found.goesOn then found.rest.length + 1 else found.rest.length
  match if isRaw then none else escapeFailure? (cs.take (cs.length - dropped)) with
  | some message => flaw message
  | none => .ok ()

/-- Where the search for the end of an expression is: in a quoted text, and inside which brackets. -/
structure Search where
  /-- The quote that closes the text, and whether three of them do. -/
  quote : Option (Char × Bool) := none
  opened : List Char := []

/-- Characters that end an expression outside of brackets. -/
def endsExpression (c : Char) : Bool := c = '!' || c = ':' || c = '}' || c = '='

/-- Comparisons of two characters, which end no expression. -/
def isComparison (c d : Char) : Bool := d = '=' && (c = '!' || c = '=' || c = '<' || c = '>')

/-- The rest from the end of an expression on. -/
def expressionEnd (s : Search) : Nat → List Char → Checked (List Char)
  | 0, cs => .ok cs
  | fuel + 1, cs =>
    match cs with
    | [] =>
      if s.quote.isSome then flaw "f-string: unterminated string"
      else
        match s.opened with
        | c :: _ => flaw ("f-string: unmatched '" ++ c.toString ++ "'")
        | [] => .ok []
    | c :: rest =>
      if c = '\\' then flaw "f-string expression part cannot include a backslash"
      else
        match s.quote with
        | some (quote, triple) =>
          if c ≠ quote then expressionEnd s fuel rest
          else if !triple then expressionEnd { s with quote := none } fuel rest
          else if [quote, quote].isPrefixOf rest then expressionEnd { s with quote := none } fuel (rest.drop 2)
          else expressionEnd s fuel rest
        | none =>
          if c = '\'' || c = '"' then
            let triple := [c, c].isPrefixOf rest
            expressionEnd { s with quote := some (c, triple) } fuel (if triple then rest.drop 2 else rest)
          else if c = '(' || c = '[' || c = '\x7b' then
            if maxOpen ≤ s.opened.length then flaw "f-string: too many nested parenthesis"
            else expressionEnd { s with opened := c :: s.opened } fuel rest
          else if c = '#' then flaw "f-string expression part cannot include '#'"
          else if s.opened.isEmpty && rest.head?.any (isComparison c) then expressionEnd s fuel (rest.drop 1)
          else if s.opened.isEmpty && endsExpression c then .ok cs
          else if c = ')' || c = ']' || c = '\x7d' then
            match s.opened with
            | [] => flaw ("f-string: unmatched '" ++ c.toString ++ "'")
            | opener :: opened =>
              if closerOf opener = c then expressionEnd { s with opened } fuel rest
              else
                flaw ("f-string: closing parenthesis '" ++ c.toString ++ "' does not match opening parenthesis '" ++
                  opener.toString ++ "'")
          else expressionEnd s fuel rest

/-- Blanks that an expression must not be made of alone. -/
def isFiller (c : Char) : Bool := c = ' ' || c = '\t' || c = '\n' || c = '\x0c'

/-- Blanks that may stand behind an equals sign. -/
def isSpace (c : Char) : Bool := isFiller c || c = '\x0b' || c = '\r'

def expected : String := "f-string: expecting '\x7d'"

/-- The part of a text before another one that it ends with. -/
def before (cs rest : List Char) : List Char := cs.take (cs.length - rest.length)

/-- What is known while a text is checked: whether its escapes mean nothing, the text as a whole, on which
line it begins, and what is wrong with an expression that begins on a line. -/
structure Context where
  isRaw : Bool
  whole : List Char
  line : Nat
  failure? : Nat → List Char → Option String

namespace Context

/-- The line on which the rest of the text begins. -/
def lineOf (c : Context) (rest : List Char) : Nat := c.line + (before c.whole rest).count '\n'

/-- Check an expression, which stands in brackets, with the rest from its end on. -/
def checkExpression (c : Context) (cs rest : List Char) : Checked Unit :=
  let body := before cs rest
  if body.all isFiller then
    match rest with
    | '}' :: _ => flaw "f-string: empty expression not allowed"
    | d :: _ => flaw ("f-string: expression required before '" ++ d.toString ++ "'")
    | [] => flaw expected
  else
    match c.failure? (c.lineOf cs) ('(' :: body ++ [')']) with
    | some message => .error (.inner message)
    | none => .ok ()

mutual

/-- Check text with expressions in it, inside so many others. The rest begins with the bracket that ends
it. -/
def checkText (c : Context) (level : Nat) : Nat → List Char → Checked (List Char)
  | 0, cs => .ok cs
  | fuel + 1, cs => do
    let found ← readPlain c.isRaw (level = 0) cs
    checkPlain c.isRaw cs found
    if found.goesOn then checkText c level fuel found.rest
    else
      match found.rest with
      | '\x7b' :: rest => checkText c level fuel (← checkField c level fuel rest)
      | '\x7d' :: rest => return '\x7d' :: rest
      | rest => if level = 0 then return rest else flaw expected

/-- Check what stands in curly brackets, with the rest behind them. -/
def checkField (c : Context) (level : Nat) : Nat → List Char → Checked (List Char)
  | 0, cs => .ok cs
  | fuel + 1, cs => do
    if 2 ≤ level then flaw "f-string: expressions nested too deeply"
    let rest ← expressionEnd {} (cs.length + 1) cs
    if rest.isEmpty then flaw expected
    c.checkExpression cs rest
    let rest := match rest with
      | '=' :: rest => rest.dropWhile isSpace
      | rest => rest
    let rest ← match rest with
      | ['!'] => flaw expected
      | '!' :: letter :: rest =>
        if letter = 's' || letter = 'r' || letter = 'a' then pure rest
        else flaw "f-string: invalid conversion character: expected 's', 'r', or 'a'"
      | rest => pure rest
    let rest ← match rest with
      | [':'] => flaw expected
      | ':' :: rest => checkText c (level + 1) fuel rest
      | rest => pure rest
    match rest with
    | '\x7d' :: rest => return rest
    | _ => flaw expected

end

end Context

/-- What is wrong with a formatted text. -/
def flaw? (c : Context) : Option Flaw :=
  match c.checkText 0 (2 * c.whole.length + 2) c.whole with
  | .ok _ => none
  | .error f => some f

end Format
end Literal
end GitPractice
