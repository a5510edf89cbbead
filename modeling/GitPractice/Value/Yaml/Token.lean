import GitPractice.Value.Yaml.Cursor

/-!
# Tokens of YAML

A text is a row of tokens: signs, names, tags and the texts of scalars. Where
blocks begin and end shows in columns only; these places are tokens of their own.
-/

namespace GitPractice
namespace Yaml

inductive Token where
  /-- The version that a document is written for, of which the first number matters. -/
  | version (major : Nat)
  /-- A name for the beginnings of tags. -/
  | handle (name uri : String)
  /-- A directive of no meaning. -/
  | directive
  | documentStart
  | documentEnd
  | streamEnd
  | blockListStart
  | blockRecordStart
  | blockEnd
  | listStart
  | listEnd
  | recordStart
  | recordEnd
  /-- The dash before an item. -/
  | item
  | comma
  | key
  | value
  | alias (name : String)
  | anchor (name : String)
  /-- A tag in two parts; one without a handle is complete. -/
  | tag (handle : Option String) (suffix : String)
  /-- The text of a scalar by its code points, and whether it stands there without quotes. -/
  | scalar (isPlain : Bool) (points : List Nat)
  /-- From here on the text cannot be read. -/
  | broken (cause : ReadError)
deriving DecidableEq, Inhabited

namespace Token

def isDigit (c : Char) : Bool := '0' ≤ c && c ≤ '9'

/-- A character of a name of an anchor, a directive or a handle. -/
def isNameChar (c : Char) : Bool := c.isAlphanum || c = '-' || c = '_'

/-- A character of a tag. -/
def isTagChar (c : Char) : Bool := c.isAlphanum || "-;/?:@&=+$,_.!~*'()[]%".toList.contains c

def points (cs : List Char) : List Nat := cs.map Char.toNat

/-! ## Names and tags -/

def readNumber (c : Cursor) : Reading (Nat × Cursor) :=
  match c.span isDigit with
  | ([], _) => malformed
  | (digits, c) => .ok (digits.foldl (fun n d => 10 * n + (d.toNat - 48)) 0, c)

/-- Read the name of an anchor behind its sign. -/
def readAnchorName (c : Cursor) : Reading (String × Cursor) :=
  match c.next.span isNameChar with
  | ([], _) => malformed
  | (name, c) =>
    if isGap c.peek || "?:,]\x7d%@\x60".toList.contains c.peek then .ok (String.ofList name, c) else malformed

def hexValue? (c : Char) : Option Nat :=
  if isDigit c then some (c.toNat - 48)
  else if 'a' ≤ c && c ≤ 'f' then some (c.toNat - 87)
  else if 'A' ≤ c && c ≤ 'F' then some (c.toNat - 55)
  else none

/-- The value of hexadecimal digits. -/
def hexCode? (cs : List Char) : Option Nat := cs.foldlM (fun n c => (hexValue? c).map (16 * n + ·)) 0

/-- Put the characters in for escaped bytes, which must be text in UTF-8. `bytes` holds those read so
far in reverse. -/
def unescapeTag (bytes : List UInt8) : List Char → Option (List Char)
  | '%' :: a :: b :: cs =>
    match hexCode? [a, b] with
    | some n => unescapeTag (UInt8.ofNat n :: bytes) cs
    | none => none
  | cs =>
    let flushed := (String.fromUTF8? (ByteArray.mk bytes.reverse.toArray)).map String.toList
    match cs with
    | [] => flushed
    | c :: cs => if c = '%' then none else do return (← flushed) ++ c :: (← unescapeTag [] cs)

/-- Read the characters of a tag, of which there is at least one. -/
def readTagText (c : Cursor) : Reading (String × Cursor) :=
  match c.span isTagChar with
  | ([], _) => malformed
  | (text, c) =>
    match unescapeTag [] text with
    | some text => .ok (String.ofList text, c)
    | none => malformed

/-- Read a handle: a sign, or a name between two. -/
def readHandle (c : Cursor) : Reading (String × Cursor) :=
  if c.peek ≠ '!' then malformed
  else if c.peekAt 1 = ' ' then .ok ("!", c.next)
  else
    let (name, c) := c.next.span isNameChar
    if c.peek = '!' then .ok (String.ofList ('!' :: name ++ ['!']), c.next) else malformed

/-- Read a tag from its sign on. -/
def readTag (c : Cursor) : Reading (Token × Cursor) := do
  let (token, c) ←
    if c.peekAt 1 = '<' then do
      let (text, c) ← readTagText (c.skip 2)
      if c.peek = '>' then pure (Token.tag none text, c.next) else malformed
    else if isGap (c.peekAt 1) then pure (Token.tag none "!", c.next)
    else if (c.next.rest.takeWhile (!isSpaceOrEnd ·)).contains '!' then do
      let (short, c) ← readHandle c
      let (text, c) ← readTagText c
      pure (Token.tag (some short) text, c)
    else do
      let (text, c) ← readTagText c.next
      pure (Token.tag (some "!") text, c)
  if isSpaceOrEnd c.peek then return (token, c) else malformed

/-- Skip what is left of a line on which only a comment may still stand. -/
def finishLine (c : Cursor) : Reading Cursor :=
  let c := c.skipSpaces.skipComment
  if isBreakOrEnd c.peek then .ok c.lineBreak.2 else malformed

/-- Read a directive from its sign on. -/
def readDirective (c : Cursor) : Reading (Token × Cursor) := do
  match c.next.span isNameChar with
  | ([], _) => malformed
  | (name, c) =>
    unless isSpaceOrEnd c.peek do malformed
    let (token, c) ←
      match String.ofList name with
      | "YAML" => do
        let (major, c) ← readNumber c.skipSpaces
        unless c.peek = '.' do malformed
        let (_, c) ← readNumber c.next
        unless isSpaceOrEnd c.peek do malformed
        pure (Token.version major, c)
      | "TAG" => do
        let (short, c) ← readHandle c.skipSpaces
        unless c.peek = ' ' do malformed
        let (uri, c) ← readTagText c.skipSpaces
        unless isSpaceOrEnd c.peek do malformed
        pure (Token.handle short uri, c)
      | _ => pure (Token.directive, c.skipWhile (!isBreak ·))
    return (token, ← finishLine c)

/-! ## Texts -/

/-- The empty lines between the lines of a text in quotes. They are kept, while the line break before
them is not. -/
def quotedBreaks : Nat → Cursor → Reading (List Nat × Cursor)
  | 0, _ => malformed
  | fuel + 1, c => do
    if c.atDocumentMark then malformed
    let c := c.skipWhile fun x => x = ' ' || x = '\t'
    if isBreak c.peek then
      let (here, c) := c.lineBreak
      let (more, c) ← quotedBreaks fuel c
      return (here ++ more, c)
    else return ([], c)

/-- Fold a line break: alone it is a space, and before empty lines it vanishes. -/
def fold (here breaks : List Nat) : List Nat :=
  if here ≠ [10] then here ++ breaks else if breaks.isEmpty then [32] else breaks

/-- What a backslash and this character stand for. -/
def escape? : Char → Option Nat
  | '0' => some 0
  | 'a' => some 7
  | 'b' => some 8
  | 't' => some 9
  | '\t' => some 9
  | 'n' => some 10
  | 'v' => some 11
  | 'f' => some 12
  | 'r' => some 13
  | 'e' => some 27
  | ' ' => some 32
  | '"' => some 34
  | '/' => some 47
  | '\\' => some 92
  | 'N' => some 0x85
  | '_' => some 0xa0
  | 'L' => some 0x2028
  | 'P' => some 0x2029
  | _ => none

/-- The number of hexadecimal digits behind the letter of an escape. -/
def escapeLength? : Char → Option Nat
  | 'x' => some 2
  | 'u' => some 4
  | 'U' => some 8
  | _ => none

/-- Read an escape in double quotes behind its backslash. -/
def readEscape (c : Cursor) : Reading (List Nat × Cursor) :=
  match escape? c.peek, escapeLength? c.peek with
  | some n, _ => .ok ([n], c.next)
  | none, some length =>
    let digits := c.next.rest.take length
    if digits.length < length then malformed
    else
      match hexCode? digits with
      | none => malformed
      | some n =>
        if 0x7fffffff < n then .error (.fault .codeTooLarge)
        else if 0x10ffff < n then malformed
        else .ok ([n], c.next.skip length)
  | none, none =>
    if isBreak c.peek then
      let c := c.lineBreak.2
      quotedBreaks (c.size + 1) c
    else malformed

/-- Read a text up to its closing quote; `acc` holds what has been read in reverse. -/
def readQuoted (quote : Char) : Nat → List Nat → Cursor → Reading (List Nat × Cursor)
  | 0, _, _ => malformed
  | fuel + 1, acc, c =>
    let x := c.peek
    if x = quote then
      if quote = '\'' && c.peekAt 1 = '\'' then readQuoted quote fuel (39 :: acc) (c.skip 2)
      else .ok (acc.reverse, c.next)
    else if x = endMark then malformed
    else if quote = '"' && x = '\\' then
      match readEscape c.next with
      | .ok (read, c) => readQuoted quote fuel (read.reverse ++ acc) c
      | .error e => .error e
    else if x = ' ' || x = '\t' || isBreak x then
      let (blanks, c) := c.span fun x => x = ' ' || x = '\t'
      if isBreak c.peek then
        let (here, c) := c.lineBreak
        match quotedBreaks (c.size + 1) c with
        | .ok (breaks, c) => readQuoted quote fuel ((fold here breaks).reverse ++ acc) c
        | .error e => .error e
      else readQuoted quote fuel ((points blanks).reverse ++ acc) c
    else readQuoted quote fuel (x.toNat :: acc) c.next

/-- Whether a text without quotes ends before the first of these two characters. Inside brackets more
signs end it. -/
def endsPlain (inFlow : Bool) (x y : Char) : Bool :=
  isGap x || (x = ':' && (isGap y || (inFlow && ",[]\x7b\x7d".toList.contains y))) ||
    (inFlow && ",?[]\x7b\x7d".toList.contains x)

def plainRun (inFlow : Bool) : List Char → List Char
  | [] => []
  | x :: cs => if endsPlain inFlow x (cs.headD endMark) then [] else x :: plainRun inFlow cs

/-- The line breaks behind a first one, up to the next text. `none` means that a document ends here. -/
def plainBreaks : Nat → Cursor → Option (List Nat) × Cursor
  | 0, c => (none, c)
  | fuel + 1, c =>
    let c := c.skipSpaces
    if isBreak c.peek then
      let (here, c) := c.lineBreak
      if c.atDocumentMark then (none, c)
      else
        let (more, c) := plainBreaks fuel c
        (more.map (here ++ ·), c)
    else (some [], c)

/-- What stands between two parts of a text without quotes, if there may be a second one; and whether a
line ends in between. -/
def plainGap (c : Cursor) : Option (List Nat) × Bool × Cursor :=
  let (spaces, c) := c.span (· = ' ')
  if isBreak c.peek then
    let (here, c) := c.lineBreak
    if c.atDocumentMark then (none, true, c)
    else
      let (breaks, c) := plainBreaks (c.size + 1) c
      (breaks.map (fold here), true, c)
  else (if spaces.isEmpty then none else some (points spaces), false, c)

/-- Read a text without quotes, which may go on over lines further in than `indent`; `acc` holds what has
been read in reverse. The flag tells whether a line has ended behind it. -/
def readPlain (inFlow : Bool) (indent : Int) :
    Nat → List Nat → List Nat → Bool → Cursor → List Nat × Bool × Cursor
  | 0, acc, _, ended, c => (acc.reverse, ended, c)
  | fuel + 1, acc, gap, ended, c =>
    let run := if c.peek = '#' then [] else plainRun inFlow c.rest
    if run.isEmpty then (acc.reverse, ended, c)
    else
      let acc := (gap ++ points run).reverse ++ acc
      match plainGap (c.skip run.length) with
      | (none, ended, c) => (acc.reverse, ended, c)
      | (some gap, ended, c) =>
        if c.peek = '#' || (!inFlow && (c.column : Int) < indent) then (acc.reverse, ended, c)
        else readPlain inFlow indent fuel acc gap ended c

/-! ## Blocks of text -/

/-- What becomes of the line breaks at the end of a block. -/
inductive Ending where
  | clip
  | strip
  | keep
deriving DecidableEq

def readEnding (c : Cursor) : Ending × Cursor :=
  if c.peek = '+' then (.keep, c.next) else if c.peek = '-' then (.strip, c.next) else (.clip, c)

/-- Read the digit that says how far in a block stands, which is not zero. -/
def readIncrement (c : Cursor) : Reading (Option Nat × Cursor) :=
  if isDigit c.peek then
    if c.peek = '0' then malformed else .ok (some (c.peek.toNat - 48), c.next)
  else .ok (none, c)

/-- Read both signs behind the one of a block, in either order. -/
def readBlockSigns (c : Cursor) : Reading (Ending × Option Nat × Cursor) := do
  let (ending, increment, c) ←
    if c.peek = '+' || c.peek = '-' then do
      let (ending, c) := readEnding c
      let (increment, c) ← readIncrement c
      pure (ending, increment, c)
    else do
      let (increment, c) ← readIncrement c
      let (ending, c) := if increment.isSome then readEnding c else (.clip, c)
      pure (ending, increment, c)
  if isSpaceOrEnd c.peek then return (ending, increment, c) else malformed

/-- Skip empty lines and spaces; the line breaks and the furthest column reached. -/
def leadingLines : Nat → Nat → Cursor → List Nat × Nat × Cursor
  | 0, furthest, c => ([], furthest, c)
  | fuel + 1, furthest, c =>
    if c.peek = ' ' then leadingLines fuel (max furthest c.next.column) c.next
    else if isBreak c.peek then
      let (here, c) := c.lineBreak
      let (more, furthest, c) := leadingLines fuel furthest c
      (here ++ more, furthest, c)
    else ([], furthest, c)

/-- Skip spaces, but not beyond the column `indent`. -/
def skipIndent (indent : Nat) (c : Cursor) : Cursor :=
  c.skip (min (indent - c.column) (c.rest.takeWhile (· = ' ')).length)

/-- Skip lines that are empty apart from their indentation. -/
def blockBreaks (indent : Nat) : Nat → Cursor → List Nat × Cursor
  | 0, c => ([], c)
  | fuel + 1, c =>
    let c := skipIndent indent c
    if isBreak c.peek then
      let (here, c) := c.lineBreak
      let (more, c) := blockBreaks indent fuel c
      (here ++ more, c)
    else ([], c)

/-- Read the lines of a block; `acc` holds what has been read in reverse, and `breaks` are the line breaks
before the present line. A folded block joins lines that begin with text. The results are the text, the
last line break and those behind it. -/
def blockLines (folded : Bool) (indent : Nat) :
    Nat → List Nat → List Nat → Cursor → List Nat × List Nat × List Nat × Cursor
  | 0, acc, breaks, c => (acc.reverse, [], breaks, c)
  | fuel + 1, acc, breaks, c =>
    let solid (c : Cursor) := c.peek ≠ ' ' && c.peek ≠ '\t'
    let startsSolid := solid c
    let (line, c) := c.span (!isBreak ·)
    let acc := (breaks ++ points line).reverse ++ acc
    let (here, c) := c.lineBreak
    let (breaks, c) := blockBreaks indent (c.size + 1) c
    if c.column = indent && c.peek ≠ endMark then
      let joint :=
        if folded && here = [10] && startsSolid && solid c then if breaks.isEmpty then [32] else []
        else here
      blockLines folded indent fuel (joint.reverse ++ acc) breaks c
    else (acc.reverse, here, breaks, c)

/-- Read a block of text from its sign on, inside a block at the column `outer`. -/
def readBlock (folded : Bool) (outer : Int) (c : Cursor) : Reading (List Nat × Cursor) := do
  let (ending, increment, c) ← readBlockSigns c.next
  let c ← finishLine c
  let least := (max 1 (outer + 1)).toNat
  let fuel := c.size + 1
  let (breaks, indent, c) :=
    match increment with
    | none =>
      let (breaks, furthest, c) := leadingLines fuel 0 c
      (breaks, max least furthest, c)
    | some n =>
      let indent := least + n - 1
      let (breaks, c) := blockBreaks indent fuel c
      (breaks, indent, c)
  let (text, last, breaks, c) :=
    if c.column = indent && c.peek ≠ endMark then blockLines folded indent fuel [] breaks c
    else ([], [], breaks, c)
  return (text ++ (if ending = .strip then [] else last) ++ (if ending = .keep then breaks else []), c)

end Token
end Yaml
end GitPractice
