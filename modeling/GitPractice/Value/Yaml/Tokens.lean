import GitPractice.Value.Yaml.Token

/-!
# The tokens of a YAML text

The tokens are found one after the other. Two things do not show where they
happen. A block ends where a line begins further out. And a text turns out to be
a key only at the colon behind it, so the token for a key is put in before its
text then; for this the places where a key may have begun are remembered, one
for every level of brackets. Such a key must end on its line, and within 1024
characters.
-/

namespace GitPractice
namespace Yaml

/-- Where a key may have begun. -/
structure KeyPlace where
  /-- The number of tokens before it. -/
  tokenCount : Nat
  /-- Whether it must be a key, as nothing else may begin there. -/
  isRequired : Bool
  index : Nat
  line : Nat
  column : Nat

structure Tokens where
  cursor : Cursor
  /-- How many brackets are open. -/
  depth : Nat := 0
  /-- The column of the innermost block, and those of the blocks around it. -/
  indent : Int := -1
  outer : List Int := []
  /-- Whether a key without a mark may begin here. -/
  mayBeginKey : Bool := true
  /-- Where keys may have begun, by the depth of brackets. -/
  keyPlaces : List (Nat × KeyPlace) := []
  /-- The tokens so far, the last one first. -/
  found : List Token := []
  count : Nat := 0
  isDone : Bool := false

namespace Tokens

def add (t : Tokens) (token : Token) : Tokens := { t with found := token :: t.found, count := t.count + 1 }

/-- Put tokens in behind the first `n`. -/
def insertAt (t : Tokens) (n : Nat) (tokens : List Token) : Tokens :=
  let behind := t.count - n
  { t with found := t.found.take behind ++ tokens.reverse ++ t.found.drop behind
           count := t.count + tokens.length }

/-- Skip spaces, comments and line ends. A new line may begin with a key. -/
def skipGap : Nat → Tokens → Tokens
  | 0, t => t
  | fuel + 1, t =>
    let c := t.cursor.skipSpaces.skipComment
    if isBreak c.peek then
      skipGap fuel { t with cursor := c.lineBreak.2, mayBeginKey := t.mayBeginKey || t.depth = 0 }
    else { t with cursor := c }

/-- Forget the places that are too far back for a key. -/
def dropStale (t : Tokens) : Reading Tokens :=
  let isStale (p : KeyPlace) : Bool := p.line ≠ t.cursor.line || 1024 < t.cursor.index - p.index
  if t.keyPlaces.any fun (_, p) => isStale p && p.isRequired then malformed
  else .ok { t with keyPlaces := t.keyPlaces.filter fun (_, p) => !isStale p }

/-- End the blocks that stand further in than `column`. -/
def unwind (column : Int) : List Int → Tokens → Tokens
  | [], t => t
  | indent :: outer, t =>
    if column < t.indent then unwind column outer { t.add .blockEnd with indent, outer } else t

def endBlocks (column : Int) (t : Tokens) : Tokens :=
  if 0 < t.depth then t else unwind column t.outer t

/-- Begin a block at a column further in, if it is one. -/
def beginBlock (column : Nat) (t : Tokens) : Option Tokens :=
  if t.indent < column then some { t with outer := t.indent :: t.outer, indent := column } else none

/-- Forget the place at this depth; a required key would be missing. -/
def dropKeyPlace (t : Tokens) : Reading Tokens :=
  if t.keyPlaces.any fun (depth, p) => depth = t.depth && p.isRequired then malformed
  else .ok { t with keyPlaces := t.keyPlaces.filter (·.1 ≠ t.depth) }

/-- Remember that a key may begin here. -/
def markKeyPlace (t : Tokens) : Reading Tokens := do
  if t.mayBeginKey then
    let t ← t.dropKeyPlace
    let here : KeyPlace :=
      { tokenCount := t.count, isRequired := t.depth = 0 && t.indent = t.cursor.column
        index := t.cursor.index, line := t.cursor.line, column := t.cursor.column }
    return { t with keyPlaces := (t.depth, here) :: t.keyPlaces }
  else return t

def step (t : Tokens) : Tokens := { t with cursor := t.cursor.next }

/-- The end of the text, which ends all blocks. -/
def finish (t : Tokens) : Reading Tokens := do
  let t ← (t.endBlocks (-1)).dropKeyPlace
  return { t.add .streamEnd with keyPlaces := [], isDone := true }

/-- A directive or a mark between documents, with the blocks ended before it. -/
def addAtMargin (t : Tokens) (token : Token) (cursor : Cursor) : Reading Tokens := do
  let t ← (t.endBlocks (-1)).dropKeyPlace
  return { t.add token with cursor, mayBeginKey := false }

def openBracket (t : Tokens) (token : Token) : Reading Tokens := do
  let t ← t.markKeyPlace
  return { (t.add token).step with depth := t.depth + 1, mayBeginKey := true }

def closeBracket (t : Tokens) (token : Token) : Reading Tokens := do
  let t ← t.dropKeyPlace
  if t.depth = 0 then malformed
  else return { (t.add token).step with depth := t.depth - 1, mayBeginKey := false }

def addComma (t : Tokens) : Reading Tokens := do
  let t ← t.dropKeyPlace
  return { (t.add .comma).step with mayBeginKey := true }

/-- Begin a block at the cursor, if it is further in. Inside brackets there are no blocks. -/
def beginBlockHere (t : Tokens) (start : Token) : Reading Tokens :=
  if 0 < t.depth then .ok t
  else if !t.mayBeginKey then malformed
  else .ok (((t.beginBlock t.cursor.column).map (·.add start)).getD t)

def addItem (t : Tokens) : Reading Tokens := do
  let t ← t.beginBlockHere .blockListStart
  let t ← { t with mayBeginKey := true }.dropKeyPlace
  return (t.add .item).step

/-- A key with a mark before it. -/
def addKey (t : Tokens) : Reading Tokens := do
  let t ← t.beginBlockHere .blockRecordStart
  let t ← { t with mayBeginKey := t.depth = 0 }.dropKeyPlace
  return (t.add .key).step

/-- A colon. What began at the remembered place was a key. -/
def addValue (t : Tokens) : Reading Tokens := do
  match t.keyPlaces.find? (·.1 = t.depth) with
  | some (_, p) =>
    let t := { t with keyPlaces := t.keyPlaces.filter (·.1 ≠ t.depth), mayBeginKey := false }
    let t := match if t.depth = 0 then t.beginBlock p.column else none with
      | some t => t.insertAt p.tokenCount [.blockRecordStart, .key]
      | none => t.insertAt p.tokenCount [.key]
    return (t.add .value).step
  | none =>
    let t ← t.beginBlockHere .blockRecordStart
    let t ← { t with mayBeginKey := t.depth = 0 }.dropKeyPlace
    return (t.add .value).step

/-- A token that may be, or begin, a key. -/
def addInline (t : Tokens) (read : Cursor → Reading (Token × Cursor)) : Reading Tokens := do
  let t ← t.markKeyPlace
  let (token, cursor) ← read t.cursor
  return { t.add token with cursor, mayBeginKey := false }

def addBlock (t : Tokens) (folded : Bool) : Reading Tokens := do
  let t ← { t with mayBeginKey := true }.dropKeyPlace
  let (points, cursor) ← Token.readBlock folded t.indent t.cursor
  return { t.add (.scalar false points) with cursor }

def addQuoted (t : Tokens) (quote : Char) : Reading Tokens :=
  t.addInline fun c => do
    let (points, c) ← Token.readQuoted quote (c.size + 1) [] c.next
    return (.scalar false points, c)

def addPlain (t : Tokens) : Reading Tokens := do
  let t ← t.markKeyPlace
  let (points, ended, cursor) :=
    Token.readPlain (0 < t.depth) (t.indent + 1) (t.cursor.size + 1) [] [] false t.cursor
  return { t.add (.scalar true points) with cursor, mayBeginKey := ended }

/-- Whether a text without quotes begins here. -/
def beginsPlain (t : Tokens) : Bool :=
  let x := t.cursor.peek
  !(isGap x || "-?:,[]\x7b\x7d#&*!|>'\"%@\x60".toList.contains x) ||
    (!isGap (t.cursor.peekAt 1) && (x = '-' || (t.depth = 0 && (x = '?' || x = ':'))))

/-- Find the next token. -/
def advance (t : Tokens) : Reading Tokens := do
  let t := skipGap (t.cursor.size + 1) t
  let t ← t.dropStale
  let t := t.endBlocks t.cursor.column
  let c := t.cursor
  let x := c.peek
  let standsAlone := 0 < t.depth || isGap (c.peekAt 1)
  if x = endMark then t.finish
  else if c.column = 0 && x = '%' then do
    let (token, c) ← Token.readDirective c
    t.addAtMargin token c
  else if c.column = 0 && c.hasMark '-' then t.addAtMargin .documentStart (c.skip 3)
  else if c.column = 0 && c.hasMark '.' then t.addAtMargin .documentEnd (c.skip 3)
  else if x = '[' then t.openBracket .listStart
  else if x = '\x7b' then t.openBracket .recordStart
  else if x = ']' then t.closeBracket .listEnd
  else if x = '\x7d' then t.closeBracket .recordEnd
  else if x = ',' then t.addComma
  else if x = '-' && isGap (c.peekAt 1) then t.addItem
  else if x = '?' && standsAlone then t.addKey
  else if x = ':' && standsAlone then t.addValue
  else if x = '*' then t.addInline fun c => do
    let (name, c) ← Token.readAnchorName c
    return (.alias name, c)
  else if x = '&' then t.addInline fun c => do
    let (name, c) ← Token.readAnchorName c
    return (.anchor name, c)
  else if x = '!' then t.addInline Token.readTag
  else if x = '|' && t.depth = 0 then t.addBlock false
  else if x = '>' && t.depth = 0 then t.addBlock true
  else if x = '\'' || x = '"' then t.addQuoted x
  else if t.beginsPlain then t.addPlain
  else malformed

/-- Find all tokens; where the text cannot be read any further, the last token says why. -/
def collect : Nat → Tokens → List Token
  | 0, t => (Token.broken .malformed :: t.found).reverse
  | fuel + 1, t =>
    if t.isDone then t.found.reverse
    else
      match t.advance with
      | .ok t => collect fuel t
      | .error e => (Token.broken e :: t.found).reverse

/-- The tokens of a text. A mark for the encoding may stand before it. -/
def ofText (s : String) : List Token :=
  let c := Cursor.ofText s
  let c := if c.peek = byteOrderMark then c.next else c
  collect (s.length + 3) { cursor := c }

end Tokens
end Yaml
end GitPractice
