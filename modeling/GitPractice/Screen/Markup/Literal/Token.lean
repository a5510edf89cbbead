import GitPractice.Text.Identifier
import GitPractice.Text.Numeral
import GitPractice.Text.Printable
import GitPractice.Text.Quoted

/-!
# Tokens of literals

The arguments of a handler in markup are written as a literal. Its text is cut
into names, numbers, quoted texts and signs. Brackets have to match on the way,
and lines outside of brackets are set apart by how far they are indented. What is
wrong with the text itself ends the tokens. Most of that is told in any case, but
an end that comes too early counts only for those who reach it.
-/

namespace GitPractice
namespace Literal

/-- What a number is, as far as it matters. -/
structure Number where
  imaginary : Bool := false
  /-- How many digits a whole number has that is not zero. Those in other bases than ten do not count. -/
  digits : Nat := 0
  /-- Whether a whole number is too large to become one with a fraction. -/
  isHuge : Bool := false
deriving DecidableEq, Inhabited

/-- A quoted text, with what its prefix makes of it and what stands between its quotes. -/
structure Quotation where
  isBytes : Bool := false
  isRaw : Bool := false
  isFormatted : Bool := false
  body : List Char
  /-- Whether it has three quotes at each end. -/
  isTriple : Bool := false
deriving DecidableEq, Inhabited

inductive Token where
  | name (s : String)
  | number (n : Number)
  | text (t : Quotation)
  | sign (s : String)
  /-- The end of a line outside of brackets. -/
  | lineEnd
  | indent
  | dedent
  /-- The end of the whole text. -/
  | over
deriving DecidableEq, Inhabited

/-- Whether it shows from a token itself that it is over, whatever follows. -/
def Token.hasOwnEnd : Token → Bool
  | .text t => t.isTriple || !t.body.isEmpty
  | .sign s => s.length = 3
  | _ => false

/-- A token with its line and the number of brackets that are open behind it. -/
structure Placed where
  token : Token
  line : Nat
  depth : Nat
  /-- Whether it shows only at the end of the whole text that the token is over. -/
  endsText : Bool := false
deriving DecidableEq, Inhabited

/-- A bracket that is open, with its line. -/
abbrev Open := Char × Nat

/-- Why tokens end before the text is over. -/
inductive Stop where
  /-- The text is wrong here. -/
  | broken (message : String)
  /-- The text ends too early or goes on the wrong way, inside this bracket if any. -/
  | early (message : String) (opened : Option Open)
deriving DecidableEq

structure Tokens where
  tokens : Array Placed := #[]
  stop : Option Stop := none

/-- A token that has been read, with the rest. -/
abbrev Scanned := Token × List Char

/-! ## Numbers -/

def isNameChar (c : Char) : Bool := c.isAlphanum || c = '_' || 0x80 ≤ c.toNat

/-- Words that may follow a number without a space, if they end there. -/
def wordsBehindNumbers : List String := ["and", "else", "for", "or", "not"]

/-- How words may begin that follow a number without a space. -/
def startsBehindNumbers : List String := ["if", "in", "is"]

/-- Whether a word goes on behind a number that may do so. -/
def goesBehindNumber (cs : List Char) : Bool :=
  startsBehindNumbers.any (fun w => w.toList.isPrefixOf cs) ||
    wordsBehindNumbers.any fun w => w.toList.isPrefixOf cs && !(cs.drop w.length).head?.any isNameChar

/-- Check that a number ends where its digits end. -/
def endNumber (kind : String) (n : Number) (cs : List Char) : Except String Scanned :=
  if cs.head?.any isNameChar && !goesBehindNumber cs then .error ("invalid " ++ kind ++ " literal")
  else .ok (.number n, cs)

/-- Digits in groups that single underscores join. The flag tells whether a digit must come next. -/
def readGroups (kind : String) (isDigit : Char → Bool) (needed : Bool) : List Char → Except String (List Char)
  | c :: cs =>
    if isDigit c then readGroups kind isDigit false cs
    else if c = '_' && !needed then readGroups kind isDigit true cs
    else if needed then .error (misplaced c)
    else if kind ≠ "hexadecimal" && kind ≠ "decimal" && c.isDigit then .error (misplaced c)
    else .ok (c :: cs)
  | [] => if needed then .error ("invalid " ++ kind ++ " literal") else .ok []
where
  misplaced (c : Char) : String :=
    if kind ≠ "hexadecimal" && kind ≠ "decimal" && c.isDigit then
      "invalid digit '" ++ c.toString ++ "' in " ++ kind ++ " literal"
    else "invalid " ++ kind ++ " literal"

/-- The least whole number that is nearer to twice the greatest power of two of a binary64 number than to
any such number. -/
def hugeFrom : Nat := Nat.pow 2 1024 - Nat.pow 2 970

/-- The value of digits in a base. Underscores between them do not count. -/
def digitsValue (base : Nat) (cs : List Char) : Nat :=
  cs.foldl (fun value c =>
    if c = '_' then value
    else base * value +
      (if c.isDigit then c.toNat - '0'.toNat else c.toLower.toNat - 'a'.toNat + 10)) 0

/-- A number in another base, behind its letter. -/
def readBased (kind : String) (base : Nat) (isDigit : Char → Bool) (cs : List Char) : Except String Scanned := do
  let cs := match cs with
    | '_' :: rest => rest
    | cs => cs
  let rest ← readGroups kind isDigit true cs
  let digits := cs.take (cs.length - rest.length)
  endNumber kind { isHuge := hugeFrom ≤ digitsValue base digits } rest

/-- The letter of an imaginary number, or the end of another. -/
def readUnit (n : Number) (cs : List Char) : Except String Scanned :=
  match cs with
  | c :: rest =>
    if c = 'j' || c = 'J' then endNumber "imaginary" { imaginary := true } rest else endNumber "decimal" n cs
  | [] => .ok (.number n, [])

/-- An exponent, if digits follow its letter. -/
def readExponent (n : Number) (cs : List Char) : Except String Scanned :=
  match cs with
  | e :: rest =>
    if e = 'e' || e = 'E' then
      let signed := match rest with
        | '+' :: digits => some digits
        | '-' :: digits => some digits
        | _ => none
      match signed with
      | some digits =>
        if digits.head?.any Char.isDigit then do readUnit {} (← readGroups "decimal" Char.isDigit true digits)
        else .error "invalid decimal literal"
      | none =>
        if rest.head?.any Char.isDigit then do readUnit {} (← readGroups "decimal" Char.isDigit true rest)
        else endNumber "decimal" n cs
    else readUnit n cs
  | [] => .ok (.number n, [])

/-- What follows a decimal point. -/
def readFraction (cs : List Char) : Except String Scanned := do
  if cs.head?.any Char.isDigit then readExponent {} (← readGroups "decimal" Char.isDigit true cs)
  else readExponent {} cs

/-- Whether what follows the digits makes a number other than a whole one. -/
def goesOn (c : Char) : Bool := c = '.' || c = 'e' || c = 'E' || c = 'j' || c = 'J'

/-- A whole number has no zeros in front, unless it is zero. -/
def readDecimal (cs : List Char) : Except String Scanned := do
  let rest ← readGroups "decimal" Char.isDigit true cs
  let digits := cs.take (cs.length - rest.length)
  match rest with
  | '.' :: rest => readFraction rest
  | rest =>
    let isZero := digits.all fun d => d = '0' || d = '_'
    if digits.head? = some '0' && !isZero && !rest.head?.any goesOn then
      .error "leading zeros in decimal integer literals are not permitted; use an 0o prefix for octal integers"
    else
      let count := if isZero then 0 else digits.countP (· ≠ '_')
      readExponent
        { digits := count
          isHuge := 308 < count && (Text.maxIntegerDigits < count || hugeFrom ≤ digitsValue 10 digits) } rest

def readNumber : List Char → Except String Scanned
  | '0' :: c :: cs =>
    if c = 'x' || c = 'X' then
      readBased "hexadecimal" 16 (fun d => d.isDigit || ('a' ≤ d.toLower && d.toLower ≤ 'f')) cs
    else if c = 'o' || c = 'O' then readBased "octal" 8 (fun d => '0' ≤ d && d ≤ '7') cs
    else if c = 'b' || c = 'B' then readBased "binary" 2 (fun d => d = '0' || d = '1') cs
    else readDecimal ('0' :: c :: cs)
  | '.' :: cs => readFraction cs
  | cs => readDecimal cs

/-! ## Texts and names -/

/-- How many ends of lines there are, one at the very end not counted: behind that no line begins. -/
def lineEnds : List Char → Nat
  | [] => 0
  | ['\n'] => 0
  | c :: cs => (if c = '\n' then 1 else 0) + lineEnds cs

/-- A text up to its closing quotes, and the rest. A backslash keeps the next character from closing
it. -/
def readQuoted (quote : Char) (triple : Bool) : List Char → Option (List Char × List Char)
  | [] => none
  | '\\' :: c :: cs => (readQuoted quote triple cs).map fun (body, rest) => ('\\' :: c :: body, rest)
  | c :: cs =>
    if c = quote && !triple then some ([], cs)
    else if c = quote && [quote, quote].isPrefixOf cs then some ([], cs.drop 2)
    else if c = '\n' && !triple then none
    else (readQuoted quote triple cs).map fun (body, rest) => (c :: body, rest)

/-- How many lines are left before the end of a line that a text does not go on behind. -/
def joinedLines : List Char → Nat
  | '\\' :: '\n' :: [] => 0
  | '\\' :: '\n' :: cs => joinedLines cs + 1
  | '\\' :: _ :: cs => joinedLines cs
  | c :: cs => if c = '\n' then 0 else joinedLines cs
  | [] => 0

/-- A quoted text that begins with its first quote. `start` is its prefix in small letters. -/
def readText (line : Nat) (start : String) (quote : Char) (cs : List Char) : Except String Scanned :=
  let triple := [quote, quote].isPrefixOf cs
  let has (c : Char) : Bool := start.toList.contains c
  match readQuoted quote triple (if triple then cs.drop 2 else cs) with
  | some (body, rest) =>
    .ok (.text { isBytes := has 'b', isRaw := has 'r', isFormatted := has 'f', body, isTriple := triple }, rest)
  | none =>
    if triple then
      .error ("unterminated triple-quoted string literal (detected at line " ++ toString (line + lineEnds cs) ++ ")")
    else .error ("unterminated string literal (detected at line " ++ toString (line + joinedLines cs) ++ ")")

/-- What may stand directly before the quotes of a text, in small letters. -/
def textStarts : List String := ["", "b", "u", "r", "f", "br", "rb", "fr", "rf"]

def codeText (c : Char) : String :=
  let digits := String.ofList ((Nat.toDigits 16 c.toNat).map Char.toUpper)
  "U+" ++ String.ofList (List.replicate (4 - digits.length) '0') ++ digits

/-- What is said about a character that stands in no token. -/
def strange (c : Char) : String :=
  if Text.isPrintable c then "invalid character '" ++ c.toString ++ "' (" ++ codeText c ++ ")"
  else "invalid non-printable character " ++ codeText c

/-- The first character that a name cannot hold. -/
def misfit? : List Char → Option Char
  | [] => none
  | c :: cs =>
    if c = '_' || Text.beginsIdentifier c then cs.find? fun d => !Text.continuesIdentifier d else some c

/-- Letters of special forms, which count as the plain ones in a name. Of those without an alphabet of their
own, only letters of names with a meaning are here. -/
def specialLetters : List (Nat × Char) :=
  [(0x17f, 's'), (0x2b3, 'r'), (0x2e2, 's'), (0x2e3, 'x'), (0x1d49, 'e'), (0x1d56, 'p'), (0x1d57, 't'),
   (0x1d62, 'i'), (0x1d63, 'r'), (0x1d9c, 'c'), (0x2071, 'i'), (0x207f, 'n'), (0x2091, 'e'), (0x2093, 'x'),
   (0x2099, 'n'), (0x209a, 'p'), (0x209b, 's'), (0x209c, 't'), (0x212f, 'e'), (0x2139, 'i'), (0x2147, 'e'),
   (0x2148, 'i'), (0x2170, 'i'), (0x2179, 'x'), (0x217d, 'c')]

/-- The plain letter for one of a special form. The mathematical alphabets have capital and small letters
one after the other. -/
def plainLetter (c : Char) : Char :=
  let n := c.toNat
  if 0x1d400 ≤ n ∧ n < 0x1d6a4 then
    let place := (n - 0x1d400) % 52
    Char.ofNat (if place < 26 then 65 + place else 71 + place)
  else if 0xff21 ≤ n ∧ n ≤ 0xff5a then Char.ofNat (n - 0xfee0)
  else ((specialLetters.find? (·.1 = n)).map (·.2)).getD c

/-- A name, or a text that it is the prefix of. -/
def readWord (line : Nat) (cs : List Char) : Except String Scanned :=
  let word := cs.takeWhile isNameChar
  let rest := cs.drop word.length
  let small := String.ofList (word.map Char.toLower)
  match rest, textStarts.contains small with
  | '"' :: rest, true => readText line small '"' rest
  | '\'' :: rest, true => readText line small '\'' rest
  | _, _ =>
    match misfit? word with
    | some c => .error (strange c)
    | none => .ok (.name (String.ofList word), rest)

/-! ## Signs and brackets -/

/-- Signs of more than one character, the longer ones first. -/
def longSigns : List String :=
  ["**=", "//=", ">>=", "<<=", "...", "==", "!=", "<>", "<=", ">=", "->", "+=", "-=", "*=", "/=", "//",
   "**", "<<", ">>", "%=", "&=", "|=", "^=", "@=", ":="]

def readSign (cs : List Char) : Except String Scanned :=
  match longSigns.find? fun s => s.toList.isPrefixOf cs with
  | some s => .ok (.sign s, cs.drop s.length)
  | none =>
    match cs with
    | c :: rest =>
      if Text.isPrintable c then .ok (.sign c.toString, rest) else .error (strange c)
    | [] => .ok (.over, [])

def closerOf : Char → Char
  | '(' => ')'
  | '[' => ']'
  | _ => '}'

/-- How many brackets may be open at once. -/
def maxOpen : Nat := 200

/-- Take the closing of a bracket into account. -/
def close (line : Nat) (c : Char) : List Open → Except String (List Open)
  | [] => .error ("unmatched '" ++ c.toString ++ "'")
  | (opener, start) :: rest =>
    if closerOf opener = c then .ok rest
    else
      .error ("closing parenthesis '" ++ c.toString ++ "' does not match opening parenthesis '" ++
        opener.toString ++ "'" ++ (if start = line then "" else " on line " ++ toString start))

def neverClosed (opener : Char) : String := "'" ++ opener.toString ++ "' was never closed"

/-! ## Lines -/

/-- How far a line is indented: with tabs to the next multiple of eight, and with tabs as one place. -/
structure Column where
  wide : Nat := 0
  narrow : Nat := 0
deriving DecidableEq, Inhabited

/-- What is said about a backslash that does not end a line. -/
def strayBackslash : String := "unexpected character after line continuation character"

/-- What is said about a text that ends behind the end of a line that should go on. -/
def endsEarly : String := "unexpected EOF while parsing"

/-- Leave a line behind its backslash. Another one has to follow. -/
def continueLine : List Char → Except String (List Char)
  | '\n' :: [] => .error endsEarly
  | '\n' :: cs => .ok cs
  | _ => .error strayBackslash

/-- The start of a line. -/
structure LineStart where
  column : Column
  /-- How many ends of lines are left behind. -/
  lines : Nat
  rest : List Char

/-- Read how far a line is indented. Where lines are joined by a backslash, the first of them with a place
of its own tells that. -/
def readIndent (at? : Column) (first : Nat) (lines : Nat) : Nat → List Char → Except String LineStart
  | 0, cs => .ok { column := at?, lines, rest := cs }
  | fuel + 1, cs =>
    match cs with
    | ' ' :: rest => readIndent ⟨at?.wide + 1, at?.narrow + 1⟩ first lines fuel rest
    | '\t' :: rest => readIndent ⟨(at?.wide / 8 + 1) * 8, at?.narrow + 1⟩ first lines fuel rest
    | '\x0c' :: rest => readIndent {} first lines fuel rest
    | '\\' :: rest => do
      readIndent at? (if first ≠ 0 then first else at?.wide) (lines + 1) fuel (← continueLine rest)
    | cs => .ok { column := if first ≠ 0 then ⟨first, first⟩ else at?, lines, rest := cs }

/-- How many indentations may stand inside each other. -/
def maxIndents : Nat := 100

/-- What is said about tabs and spaces that could mean different things. -/
def mixedTabs : String := "inconsistent use of tabs and spaces in indentation"

/-- Leave indentations that are further in than this. -/
def dedents (column : Column) (count : Nat) : List Column → Except String (Nat × List Column)
  | [] => if column.wide = 0 then .ok (count, []) else .error "unindent does not match any outer indentation level"
  | top :: below =>
    if column.wide < top.wide then dedents column (count + 1) below
    else if column.wide ≠ top.wide then .error "unindent does not match any outer indentation level"
    else if column.narrow ≠ top.narrow then .error mixedTabs
    else .ok (count, top :: below)

/-- The tokens that a line begins with for its indentation, with the indentations that are open then. -/
def indentation (column : Column) (opened : List Column) : Except String (List Token × List Column) :=
  let top := opened.head?.getD {}
  if column.wide = top.wide then
    if column.narrow ≠ top.narrow then .error mixedTabs else .ok ([], opened)
  else if top.wide < column.wide then
    if maxIndents ≤ opened.length + 1 then .error "too many levels of indentation"
    else if column.narrow ≤ top.narrow then .error mixedTabs
    else .ok ([.indent], column :: opened)
  else (dedents column 0 opened).map fun (count, opened) => (List.replicate count .dedent, opened)

/-! ## Scanning -/

/-- How far a text has been cut into tokens. -/
structure Scan where
  line : Nat
  opened : List Open := []
  indents : List Column := []
  /-- Whether a line begins here. -/
  atStart : Bool := true
  found : Array Placed := #[]

namespace Scan

def push (s : Scan) (token : Token) (endsText : Bool := false) : Scan :=
  { s with found := s.found.push { token, line := s.line, depth := s.opened.length, endsText } }

def stop (s : Scan) (why : Stop) : Tokens := { tokens := s.found, stop := some why }

/-- The text ends too early, or goes on the wrong way. -/
def early (s : Scan) (message : String) : Tokens :=
  match s.opened.head? with
  | some bracket => s.stop (.early (if message = endsEarly then neverClosed bracket.1 else message) (some bracket))
  | none => s.stop (.early message none)

/-- The text is over. -/
def finish (s : Scan) : Tokens :=
  match s.opened with
  | bracket :: _ => s.stop (.early (neverClosed bracket.1) (some bracket))
  | [] => { tokens := (s.push .over true).found }

/-- Keep a token that has been read from these characters. -/
def keep (s : Scan) (cs : List Char) (found : Scanned) : Scan :=
  let used := cs.take (cs.length - found.2.length)
  { s.push found.1 (found.2.isEmpty && !found.1.hasOwnEnd) with line := s.line + used.count '\n' }

end Scan

/-- Whether nothing stands on the rest of a line but a comment. -/
def isBlankLine (cs : List Char) : Bool := cs.head?.any fun c => c = '\n' || c = '#'

/-- Cut a text into tokens. Every step takes a character away or begins a line, so twice their number
bounds the steps. -/
def scan (s : Scan) : Nat → List Char → Tokens
  | 0, _ => s.finish
  | fuel + 1, cs =>
    if s.atStart then
      match readIndent {} 0 0 (cs.length + 1) cs with
      | .error message => s.early message
      | .ok start =>
        let s := { s with atStart := false, line := s.line + start.lines }
        if isBlankLine start.rest then
          let rest := start.rest.dropWhile (· ≠ '\n')
          match rest with
          | _ :: rest => scan { s with atStart := true, line := s.line + 1 } fuel rest
          | [] => s.finish
        else if !s.opened.isEmpty then scan s fuel start.rest
        else
          match indentation start.column s.indents with
          | .error message => s.early message
          | .ok (tokens, indents) => scan { tokens.foldl (fun s token => s.push token start.rest.isEmpty) s with indents } fuel start.rest
    else
      let read (found : Except String Scanned) : Tokens :=
        match found with
        | .error message => s.stop (.broken message)
        | .ok found => scan (s.keep cs found) fuel found.2
      match cs with
      | [] => s.finish
      | c :: rest =>
        if c = ' ' || c = '\t' || c = '\x0c' then scan s fuel rest
        else if c = '#' then scan s fuel (rest.dropWhile (· ≠ '\n'))
        else if c = '\n' then
          let s := if s.opened.isEmpty then s.push .lineEnd else s
          scan { s with atStart := true, line := s.line + 1 } fuel rest
        else if c = '\\' then
          match continueLine rest with
          | .error message => s.early message
          | .ok rest => scan { s with line := s.line + 1 } fuel rest
        else if c = '(' || c = '[' || c = '\x7b' then
          if maxOpen ≤ s.opened.length then s.stop (.broken "too many nested parentheses")
          else scan (Scan.push { s with opened := (c, s.line) :: s.opened } (.sign c.toString) rest.isEmpty) fuel rest
        else if c = ')' || c = ']' || c = '\x7d' then
          match close s.line c s.opened with
          | .error message => s.stop (.broken message)
          | .ok opened => scan (Scan.push { s with opened } (.sign c.toString) rest.isEmpty) fuel rest
        else if c.isDigit || (c = '.' && rest.head?.any Char.isDigit) then read (readNumber cs)
        else if isNameChar c then read (readWord s.line cs)
        else if c = '"' || c = '\'' then read (readText s.line "" c rest)
        else read (readSign cs)

/-- The characters of a text in which every line ends the same way. -/
def withLineEnds : List Char → List Char
  | '\r' :: '\n' :: cs => '\n' :: withLineEnds cs
  | '\r' :: cs => '\n' :: withLineEnds cs
  | c :: cs => c :: withLineEnds cs
  | [] => []

/-- The tokens of a text that begins on the given line. -/
def tokens (line : Nat) (cs : List Char) : Tokens := scan { line } (2 * cs.length + 2) cs

end Literal
end GitPractice
