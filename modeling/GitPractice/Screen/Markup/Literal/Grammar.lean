import GitPractice.Screen.Markup.Literal.Parser

/-!
# The grammar of expressions

Operands with operators between them, in eleven levels of which the later ones
bind more closely; tuples, sets and dictionaries; calls, comprehensions and
functions without a name. Lists and subscripts are left out, as there are no
square brackets in the arguments of a handler.

Every rule is written out of the main ones, which `find` finds. Rules that look
for mistakes stand where the rule is that they are near to. They find nothing, so
what the grammar accepts does not depend on them.
-/

namespace GitPractice
namespace Literal

def keywords : List String :=
  ["False", "None", "True", "and", "as", "assert", "async", "await", "break", "class", "continue", "def",
   "del", "elif", "else", "except", "finally", "for", "from", "global", "if", "import", "in", "is",
   "lambda", "nonlocal", "not", "or", "pass", "raise", "return", "try", "while", "with", "yield"]

/-- Names with a meaning of their own at the beginning of a line. -/
def softKeywords : List String := ["_", "case", "match"]

/-- Commands that once did without brackets around what they print or run. -/
def oldCommands : List String := ["print", "exec"]

/-- Whether an expression is the name of such a command. -/
def Expr.isOldCommand : Expr → Bool
  | .name s => oldCommands.contains s
  | _ => false

/-- What is said about a whole number of more digits than are read. -/
def tooManyDigits (digits : Nat) : String :=
  "Exceeds the limit (4300 digits) for integer string conversion: value has " ++ toString digits ++
    " digits; use sys.set_int_max_str_digits() to increase the limit - Consider hexadecimal for huge integer literals to avoid decimal conversion limits."

namespace Grammar

open GitPractice.Literal.Parser

/-! ## Words and texts -/

/-- A name that is no keyword, in plain letters. -/
def name : Parser String := do
  match ← peek with
  | .name s =>
    if keywords.contains s then nothing
    advance
    return String.ofList (s.toList.map plainLetter)
  | _ => nothing

def softKeyword : Parser Unit := do
  match ← peek with
  | .name s => if softKeywords.any s.isPrefixOf then advance else nothing
  | _ => nothing

def number : Parser Expr := do
  match ← peek with
  | .number n =>
    advance
    if Text.maxIntegerDigits < n.digits then mistake (tooManyDigits n.digits)
    return .number n
  | _ => nothing

/-- A quoted text with its line. -/
def quotation : Parser (Nat × Quotation) := do
  match ← peek with
  | .text t =>
    let place := (← get).place
    let line := (((← read).tokens.tokens[place]?).map (·.line)).getD 0
    advance
    return (line, t)
  | _ => nothing

/-- Check texts that stand one after the other. They are all of one kind. -/
def checkTexts (isBytes? : Option Bool) : List (Nat × Quotation) → Parser Unit
  | [] => return ()
  | (line, t) :: rest => do
    let source ← read
    let tell (message : String) : Parser Unit := do
      let told : Mistake := { message, seen := (← get).seen }
      throwThe Mistake told
    unless t.isFormatted do
      if let some message := source.failure? line t then tell message
    if isBytes?.any (· ≠ t.isBytes) then mistake "cannot mix bytes and nonbytes literals"
    if t.isFormatted then
      if let some message := source.failure? line t then tell message
    checkTexts (some t.isBytes) rest

/-- Texts one after the other are one text. -/
def texts : Parser Expr := do
  let all ← manyOne quotation
  checkTexts none all
  return if all.any (·.2.isFormatted) then .formattedText else .text

def constant (s : String) : Parser Expr := do
  word s
  return .constant s

section

variable (find : Rule → Parser Expr)

/-! ## Parts of expressions -/

/-- A name given on the way to what stands behind it. -/
def assignment : Parser Expr := do
  let _ ← name
  sign ":="
  let _ ← find .expression
  return .other "named expression"

def namedExpression : Parser Expr :=
  choice [
    assignment find,
    checking [do let _ ← find .misnamed],
    do
      let e ← find .expression
      notAhead (sign ":=")
      return e]

/-- An item, or a star before something whose items are taken over. -/
def namedItem : Parser Expr :=
  choice [
    do
      sign "*"
      return .starred (← find .bitwiseOr),
    namedExpression find]

/-- Items with commas between them, and maybe one at the end. -/
def namedItems : Parser (List Expr) := do
  let items ← listed (namedItem find)
  let _ ← attempt (sign ",")
  return items

/-- Expressions with commas between them are a tuple. -/
def starExpressions : Parser Expr :=
  choice [
    do
      let e ← find .starExpression
      let others ← manyOne (sign "," *> find .starExpression)
      let _ ← attempt (sign ",")
      return .tuple (e :: others),
    do
      let e ← find .starExpression
      sign ","
      return .tuple [e],
    find .starExpression]

def starredExpression : Parser Expr :=
  choice [
    do
      sign "*"
      return .starred (← find .expression),
    do
      sign "*"
      mistake "Invalid star expression"]

def yieldExpression : Parser Expr := do
  choice [
    do
      word "yield"
      word "from"
      let _ ← find .expression,
    do
      word "yield"
      let _ ← attempt (starExpressions find)]
  return .other "yield expression"

/-! ## Comprehensions -/

def targets : Parser Unit :=
  choice [
    do
      let _ ← find .target
      notAhead (sign ","),
    do
      let _ ← listed (find .target)
      let _ ← attempt (sign ",")]

/-- One `for` of a comprehension with its conditions. Behind `in` there is no other way. -/
def forClause : Parser Unit := do
  let isFor ← attempt <| choice [
    do
      word "async"
      word "for"
      targets find
      word "in",
    do
      word "for"
      targets find
      word "in"]
  if isFor.isSome then
    let _ ← find .disjunction
    let _ ← many (word "if" *> find .disjunction)
  else
    checking [do
      let _ ← attempt (word "async")
      word "for"
      let e ← starExpressions find
      if let some wrong := e.wrongTarget? then mistake ("cannot assign to " ++ wrong.kind)]

def forClauses : Parser Unit := do
  let _ ← manyOne (forClause find)

def openRoundOrCurly : Parser Unit := choice [sign "(", sign "\x7b"]

/-- Mistakes in comprehensions. -/
def badComprehension : List (Parser Unit) := [
  do
    openRoundOrCurly
    let _ ← starredExpression find
    forClauses find
    mistake "iterable unpacking cannot be used in comprehension",
  do
    sign "\x7b"
    let _ ← namedItem find
    sign ","
    let _ ← namedItems find
    forClauses find
    mistake "did you forget parentheses around the comprehension target?",
  do
    sign "\x7b"
    let _ ← namedItem find
    sign ","
    forClauses find
    mistake "did you forget parentheses around the comprehension target?"]

/-- An expression that no name is given to, except within brackets of its own. -/
def itemOrAssignment : Parser Expr :=
  choice [
    assignment find,
    do
      let e ← find .expression
      notAhead (sign ":=")
      return e]

def generator : Parser Expr :=
  choice [
    do
      sign "("
      let _ ← itemOrAssignment find
      forClauses find
      sign ")"
      return .other "generator expression",
    checking (badComprehension find)]

def setComprehension : Parser Expr :=
  choice [
    do
      sign "\x7b"
      let _ ← namedExpression find
      forClauses find
      sign "\x7d"
      return .other "set comprehension",
    checking (badComprehension find)]

/-! ## Brackets -/

def tuple : Parser Expr := do
  sign "("
  let items ← attempt do
    let first ← namedItem find
    sign ","
    return first :: (← attempt (namedItems find)).getD []
  sign ")"
  return .tuple (items.getD [])

def group : Parser Expr :=
  choice [
    do
      sign "("
      let e ← choice [yieldExpression find, namedExpression find]
      sign ")"
      return e,
    checking [
      do
        sign "("
        let _ ← starredExpression find
        sign ")"
        mistake "cannot use starred expression here",
      do
        sign "("
        sign "**"
        let _ ← find .expression
        sign ")"
        mistake "cannot use double starred expression here"]]

def set : Parser Expr := do
  sign "\x7b"
  let items ← namedItems find
  sign "\x7d"
  return .set items

def keyWithValue : Parser (Expr × Expr) := do
  let key ← find .expression
  sign ":"
  return (key, ← find .expression)

/-- An entry of a dictionary. -/
def entry : Parser (Option Expr × Expr) :=
  choice [
    do
      sign "**"
      return (none, ← find .bitwiseOr),
    do
      let (key, value) ← keyWithValue find
      return (some key, value)]

/-- Mistakes in what stands behind a key. -/
def badValue : List (Parser Unit) := [
  do
    let _ ← find .expression
    sign ":"
    sign "*"
    let _ ← find .bitwiseOr
    mistake "cannot use a starred expression in a dictionary value",
  do
    let _ ← find .expression
    sign ":"
    ahead (choice [sign "\x7d", sign ","])
    mistake "expression expected after dictionary key and ':'"]

/-- Mistakes in an entry behind others. -/
def badEntry : List (Parser Unit) :=
  (do
    let _ ← find .expression
    notAhead (sign ":")
    mistake "':' expected after dictionary key") :: badValue find

/-- Mistakes in entries: first in one behind others, then in the first. -/
def badEntries : List (Parser Unit) :=
  (do
    let _ ← listed (entry find)
    sign ","
    choice (badEntry find)
    nothing) :: badValue find

def dictionary : Parser Expr :=
  choice [
    do
      sign "\x7b"
      let entries ← attempt do
        let entries ← listed (entry find)
        let _ ← attempt (sign ",")
        return entries
      sign "\x7d"
      return .dictionary (entries.getD []),
    do
      sign "\x7b"
      choice (badEntries find)
      nothing]

def dictionaryComprehension : Parser Expr :=
  choice [
    do
      sign "\x7b"
      let _ ← keyWithValue find
      forClauses find
      sign "\x7d"
      return .other "dict comprehension",
    checking [do
      sign "\x7b"
      sign "**"
      let _ ← find .bitwiseOr
      forClauses find
      sign "\x7d"
      mistake "dict unpacking cannot be used in dict comprehension"]]

/-! ## Arguments of calls -/

/-- An argument with a name, or one whose items are taken over. The flag tells whether it has no name, and
the other one whether it takes over a dictionary. -/
structure Argument where
  isUnnamed : Bool := false
  unpacks : Bool := false

/-- Mistakes in an argument with a name. -/
def badKeyword : List (Parser Unit) := [
  do
    let s ← choice (["True", "False", "None"].map fun s => do
      word s
      return s)
    sign "="
    mistake ("cannot assign to " ++ s),
  do
    let _ ← name
    sign "="
    let _ ← find .expression
    forClauses find
    mistake "invalid syntax. Maybe you meant '==' or ':=' instead of '='?",
  do
    notAhead (do
      let _ ← name
      sign "=")
    let _ ← find .expression
    sign "="
    mistake "expression cannot contain assignment, perhaps you meant \"==\"?"]

def keyword : Parser Argument := do
  let _ ← name
  sign "="
  let _ ← find .expression
  return {}

def keywordOrStarred : Parser Argument :=
  choice [
    checking (badKeyword find),
    keyword find,
    do
      let _ ← starredExpression find
      return { isUnnamed := true }]

def keywordOrUnpacked : Parser Argument :=
  choice [
    checking (badKeyword find),
    keyword find,
    do
      sign "**"
      let _ ← find .expression
      return { unpacks := true }]

def namedArguments : Parser (List Argument) :=
  choice [
    do
      let first ← listed (keywordOrStarred find)
      sign ","
      return first ++ (← listed (keywordOrUnpacked find)),
    listed (keywordOrStarred find),
    listed (keywordOrUnpacked find)]

/-- What the arguments of a call come to. -/
def counted (unnamed : Nat) (others : List Argument) : Expr :=
  .arguments (unnamed + others.countP (·.isUnnamed)) (others.any (·.unpacks))

/-- Arguments without names. -/
def unnamedArguments : Parser (List Expr) :=
  listed <| choice [
    starredExpression find,
    do
      let e ← itemOrAssignment find
      notAhead (sign "=")
      return e]

/-- Arguments without names come first. -/
def argumentList : Parser Expr :=
  choice [
    do
      let unnamed ← unnamedArguments find
      let others ← attempt (sign "," *> namedArguments find)
      return counted unnamed.length (others.getD []),
    do
      return counted 0 (← namedArguments find)]

def bareGenerator : String := "Generator expression must be parenthesized"

/-- Mistakes in the arguments of a call. -/
def badArguments : List (Parser Unit) := [
  do
    let _ ← choice [
      unnamedArguments find *> sign "," *> namedArguments find,
      namedArguments find]
    sign ","
    let _ ← listed (starredExpression find <* notAhead (sign "="))
    mistake "iterable argument unpacking follows keyword argument unpacking",
  do
    let _ ← find .expression
    forClauses find
    sign ","
    let _ ← attempt <| choice [
      do
        let _ ← argumentList find,
      do
        let _ ← find .expression
        forClauses find]
    mistake bareGenerator,
  do
    let _ ← name
    sign "="
    let _ ← find .expression
    forClauses find
    mistake "invalid syntax. Maybe you meant '==' or ':=' instead of '='?",
  do
    let arguments ← argumentList find
    forClauses find
    match arguments with
    | .arguments unnamed _ => if 1 < unnamed then mistake bareGenerator
    | _ => return (),
  do
    let _ ← argumentList find
    sign ","
    let _ ← find .expression
    forClauses find
    mistake bareGenerator,
  do
    let arguments ← argumentList find
    sign ","
    let _ ← argumentList find
    match arguments with
    | .arguments _ true => mistake "positional argument follows keyword argument unpacking"
    | _ => mistake "positional argument follows keyword argument"]

/-! ## Functions without a name -/

def parameterDefault : Parser Unit :=
  choice [
    do
      sign "="
      let _ ← find .expression,
    checking [do
      sign "="
      ahead (choice [sign ")", sign ","])
      mistake "expected default value expression"]]

/-- What ends a parameter. -/
def parameterEnd : Parser Unit := choice [sign ",", ahead (sign ":")]

def parameter : Parser Unit := do
  let _ ← name
  parameterEnd

def parameterWithDefault : Parser Unit := do
  let _ ← name
  parameterDefault find
  parameterEnd

def parameterMaybeDefault : Parser Unit := do
  let _ ← name
  let _ ← attempt (parameterDefault find)
  parameterEnd

/-- Parameters before a slash, which have no names for a call. -/
def slashed : Parser Unit := do
  let _ ← manyOne parameter
  sign "/"
  parameterEnd

def slashedWithDefaults : Parser Unit := do
  let _ ← many parameter
  let _ ← manyOne (parameterWithDefault find)
  sign "/"
  parameterEnd

def doubleStarred : Parser Unit :=
  choice [
    checking [
      do
        sign "**"
        let _ ← name
        sign "="
        mistake "var-keyword argument cannot have default value",
      do
        sign "**"
        let _ ← name
        sign ","
        let _ ← name
        mistake "arguments cannot follow var-keyword argument",
      do
        sign "**"
        let _ ← name
        sign ","
        choice [sign "*", sign "**", sign "/"]
        mistake "arguments cannot follow var-keyword argument"],
    do
      sign "**"
      parameter]

/-- Parameters from a star on. -/
def starParameters : Parser Unit :=
  choice [
    checking [
      do
        sign "*"
        choice [
          sign ":",
          do
            sign ","
            choice [sign ":", sign "**"]]
        mistake "named arguments must follow bare *",
      do
        sign "*"
        let _ ← name
        sign "="
        mistake "var-positional argument cannot have default value",
      do
        sign "*"
        choice [parameter, sign ","]
        let _ ← many (parameterMaybeDefault find)
        sign "*"
        choice [parameter, sign ","]
        mistake "* argument may appear only once"],
    do
      sign "*"
      parameter
      let _ ← many (parameterMaybeDefault find)
      let _ ← attempt doubleStarred,
    do
      sign "*"
      sign ","
      let _ ← manyOne (parameterMaybeDefault find)
      let _ ← attempt doubleStarred,
    doubleStarred]

/-- Mistakes in parameters. -/
def badParameters : List (Parser Unit) := [
  do
    let _ ← many parameter
    choice [
      slashedWithDefaults find,
      do
        let _ ← manyOne (parameterWithDefault find)]
    parameter
    mistake "non-default argument follows default argument",
  do
    let _ ← many parameter
    sign "("
    let _ ← listed name
    let _ ← attempt (sign ",")
    sign ")"
    mistake "Lambda expression parameters cannot be parenthesized",
  do
    sign "/"
    sign ","
    mistake "at least one argument must precede /",
  do
    choice [slashed, slashedWithDefaults find]
    let _ ← many (parameterMaybeDefault find)
    sign "/"
    mistake "/ may appear only once",
  do
    let _ ← attempt (choice [slashed, slashedWithDefaults find])
    let _ ← many (parameterMaybeDefault find)
    sign "*"
    choice [sign ",", parameter]
    let _ ← many (parameterMaybeDefault find)
    sign "/"
    mistake "/ must be ahead of *",
  do
    let _ ← manyOne (parameterMaybeDefault find)
    sign "/"
    sign "*"
    mistake "expected comma between / and *"]

def parameters : Parser Unit :=
  choice [
    checking (badParameters find),
    do
      slashed
      let _ ← many parameter
      let _ ← many (parameterWithDefault find)
      let _ ← attempt (starParameters find),
    do
      slashedWithDefaults find
      let _ ← many (parameterWithDefault find)
      let _ ← attempt (starParameters find),
    do
      let _ ← manyOne parameter
      let _ ← many (parameterWithDefault find)
      let _ ← attempt (starParameters find),
    do
      let _ ← manyOne (parameterWithDefault find)
      let _ ← attempt (starParameters find),
    starParameters find]

def function : Parser Expr := do
  word "lambda"
  let _ ← attempt (parameters find)
  sign ":"
  let _ ← find .expression
  return .other "lambda"

/-! ## Operands -/

def atom : Parser Expr :=
  choice [
    do return .name (← name),
    constant "True",
    constant "False",
    constant "None",
    do
      ahead (do let _ ← quotation)
      find .texts,
    number,
    do
      ahead (sign "(")
      choice [tuple find, group find, generator find],
    do
      ahead (sign "\x7b")
      choice [dictionary find, set find, dictionaryComprehension find, setComprehension find],
    do
      sign "..."
      return .dots]

/-- A call behind what is called. -/
def callOf (f : Expr) : Parser Expr := do
  sign "("
  let arguments ← attempt (find .arguments)
  sign ")"
  return .call f arguments.isSome

def primary : Parser Expr :=
  choice [
    do
      let _ ← find .primary
      sign "."
      let _ ← name
      return .member,
    do
      let f ← find .primary
      let _ ← generator find
      return .call f true,
    do callOf find (← find .primary),
    atom find]

/-- What shows that a target goes on. -/
def targetGoesOn : Parser Unit := choice [sign "(", sign "."]

/-- The beginning of a target that goes on. -/
def targetStart : Parser Expr :=
  choice [
    do
      let _ ← find .targetStart
      sign "."
      let _ ← name
      ahead targetGoesOn
      return .member,
    do
      let f ← find .targetStart
      let _ ← generator find
      ahead targetGoesOn
      return .call f true,
    do
      let e ← callOf find (← find .targetStart)
      ahead targetGoesOn
      return e,
    do
      let e ← atom find
      ahead targetGoesOn
      return e]

/-- What something can be assigned to in brackets or without. -/
def targetAtom : Parser Expr :=
  choice [
    do return .name (← name),
    do
      sign "("
      let e ← find .plainTarget
      sign ")"
      return e,
    do
      sign "("
      let items ← attempt <| choice [
        do
          let first ← find .target
          let others ← manyOne (sign "," *> find .target)
          let _ ← attempt (sign ",")
          return first :: others,
        do
          let first ← find .target
          sign ","
          return [first]]
      sign ")"
      return .tuple (items.getD [])]

def plainTarget : Parser Expr :=
  choice [
    do
      let _ ← find .targetStart
      sign "."
      let _ ← name
      notAhead targetGoesOn
      return .member,
    targetAtom find]

def target : Parser Expr :=
  choice [
    do
      sign "*"
      notAhead (sign "*")
      return .starred (← find .target),
    find .plainTarget]

/-! ## Operators -/

def awaited : Parser Expr :=
  choice [
    do
      word "await"
      let _ ← find .primary
      return .other "await expression",
    find .primary]

def power : Parser Expr :=
  choice [
    do
      let _ ← find .awaited
      sign "**"
      let _ ← find .factor
      return .operation,
    find .awaited]

def factor : Parser Expr :=
  choice [
    do
      sign "+"
      return .signed (← find .factor),
    do
      sign "-"
      return .signed (← find .factor),
    do
      sign "~"
      let _ ← find .factor
      return .operation,
    power find]

/-- Operands of one level with an operator of another between them, which binds less closely. -/
def operators (left right : Rule) (signs : List String) (make : Expr → Expr → Expr) : Parser Expr :=
  choice (signs.map (fun s => do
    let a ← find left
    sign s
    return make a (← find right)) ++ [find right])

def operate (_ _ : Expr) : Expr := .operation

/-- A sign of a comparison with what stands behind it, and whether it is `in`. -/
def comparisonPart : Parser Bool :=
  choice <|
    (["==", "!=", "<=", "<", ">=", ">"].map fun s => do
      sign s
      let _ ← find .bitwiseOr
      return false) ++ [
    do
      word "not"
      word "in"
      let _ ← find .bitwiseOr
      return false,
    do
      word "in"
      let _ ← find .bitwiseOr
      return true,
    do
      word "is"
      word "not"
      let _ ← find .bitwiseOr
      return false,
    do
      word "is"
      let _ ← find .bitwiseOr
      return false]

def comparison : Parser Expr :=
  choice [
    do
      let left ← find .bitwiseOr
      let parts ← manyOne (comparisonPart find)
      return .comparison left (parts.head?.getD false),
    find .bitwiseOr]

def inversion : Parser Expr :=
  choice [
    do
      word "not"
      let _ ← find .inversion
      return .operation,
    comparison find]

/-- Operands with a word between them. -/
def joinedBy (s : String) (rule : Rule) : Parser Expr :=
  choice [
    do
      let _ ← find rule
      let _ ← manyOne (word s *> find rule)
      return .operation,
    find rule]

/-! ## Expressions -/

def condition : Parser Expr := do
  let _ ← find .disjunction
  word "if"
  let _ ← find .disjunction
  word "else"
  let _ ← find .expression
  return .other "conditional expression"

/-- Mistakes in expressions. -/
def badExpression : List (Parser Unit) := [
  do
    notAhead <| choice [
      do
        let _ ← name
        let _ ← quotation,
      softKeyword]
    let first ← find .disjunction
    let _ ← unchecked (choice [condition find, find .disjunction, function find])
    unless first.isOldCommand || (← depth) = 0 do
      mistake "invalid syntax. Perhaps you forgot a comma?",
  do
    let _ ← find .disjunction
    word "if"
    let _ ← find .disjunction
    notAhead (choice [word "else", sign ":"])
    mistake "expected 'else' after 'if' expression"]

/-- Commands that are written without brackets. -/
def oldCommand : Parser Unit := do
  let s ← name
  notAhead (sign "(")
  let _ ← starExpressions find
  if oldCommands.contains s then
    mistake ("Missing parentheses in call to '" ++ s ++ "'. Did you mean " ++ s ++ "(...)?")

def expression : Parser Expr :=
  choice [
    checking (badExpression find),
    checking [oldCommand find],
    condition find,
    find .disjunction,
    function find]

def starExpression : Parser Expr :=
  choice [
    do
      sign "*"
      return .starred (← find .bitwiseOr),
    find .expression]

/-- Mistakes in expressions that something may be given a name in. -/
def misnamed : List (Parser Unit) := [
  do
    let e ← find .expression
    sign ":="
    let _ ← find .expression
    mistake ("cannot use assignment expressions with " ++ e.kind),
  do
    let _ ← name
    sign "="
    let _ ← find .bitwiseOr
    notAhead (choice [sign "=", sign ":="])
    mistake "invalid syntax. Maybe you meant '==' or ':=' instead of '='?",
  do
    notAhead (choice [tuple find, generator find, constant "True", constant "None", constant "False"])
    let e ← find .bitwiseOr
    sign "="
    let _ ← find .bitwiseOr
    notAhead (choice [sign "=", sign ":="])
    mistake ("cannot assign to " ++ e.kind ++ " here. Maybe you meant '==' instead of '='?")]

def arguments : Parser Expr :=
  choice [
    do
      let found ← argumentList find
      let _ ← attempt (sign ",")
      ahead (sign ")")
      return found,
    checking (badArguments find)]

/-- The main rules, out of each other. -/
def rule : Rule → Parser Expr
  | .expression => remember .expression (expression find)
  | .starExpression => remember .starExpression (starExpression find)
  | .disjunction => remember .disjunction (joinedBy find "or" .conjunction)
  | .conjunction => remember .conjunction (joinedBy find "and" .inversion)
  | .inversion => remember .inversion (inversion find)
  | .bitwiseOr => growing .bitwiseOr (operators find .bitwiseOr .bitwiseXor ["|"] operate)
  | .bitwiseXor => growing .bitwiseXor (operators find .bitwiseXor .bitwiseAnd ["^"] operate)
  | .bitwiseAnd => growing .bitwiseAnd (operators find .bitwiseAnd .shift ["&"] operate)
  | .shift => growing .shift (operators find .shift .sum ["<<", ">>"] operate)
  | .sum => growing .sum (operators find .sum .term ["+", "-"] .sum)
  | .term => growing .term (operators find .term .factor ["*", "/", "//", "%", "@"] operate)
  | .factor => remember .factor (factor find)
  | .awaited => remember .awaited (awaited find)
  | .primary => growing .primary (primary find)
  | .texts => remember .texts texts
  | .arguments => remember .arguments (arguments find)
  | .target => remember .target (target find)
  | .plainTarget => remember .plainTarget (plainTarget find)
  | .targetStart => growing .targetStart (targetStart find)
  | .misnamed => remember .misnamed (checking (misnamed find))

/-- One expression, or several with commas, up to the end. -/
def whole : Parser Expr := do
  let e ← choice [
    do
      let e ← find .expression
      let others ← manyOne (sign "," *> find .expression)
      let _ ← attempt (sign ",")
      return .tuple (e :: others),
    do
      let e ← find .expression
      sign ","
      return .tuple [e],
    find .expression]
  let _ ← many (token .lineEnd)
  token .over
  return e

end

/-- Find what a main rule finds. Between two tokens no rule is used twice, so their number bounds the
steps. -/
def find : Nat → Rule → Parser Expr
  | 0, _ => nothing
  | fuel + 1, r => rule (find fuel) r

end Grammar
end Literal
end GitPractice
