import GitPractice.Value.Reading

/-!
# A place in a YAML text

YAML is read by place: what a sign means depends on its column, and a short key
must end on the line on which it began. A cursor is the text that is still to
come together with the place that has been reached. Behind the end it shows the
null character, which no text holds.
-/

namespace GitPractice
namespace Yaml

/-- What is shown behind the end. -/
def endMark : Char := '\x00'

def isBreak (c : Char) : Bool :=
  c = '\n' || c = '\r' || c = '\x85' || c = '\u2028' || c = '\u2029'

def isBreakOrEnd (c : Char) : Bool := isBreak c || c = endMark

def isSpaceOrEnd (c : Char) : Bool := c = ' ' || isBreakOrEnd c

/-- Space, tab, line break or the end. -/
def isGap (c : Char) : Bool := c = '\t' || isSpaceOrEnd c

/-- A character that may stand in a YAML text at all. -/
def isAllowed (c : Char) : Bool :=
  let n := c.toNat
  n = 9 || n = 10 || n = 13 || (0x20 ≤ n && n ≤ 0x7e) || n = 0x85 || (0xa0 ≤ n && n ≤ 0xfffd) || 0x10000 ≤ n

/-- The mark that may stand before a text to tell its encoding; it takes no column. -/
def byteOrderMark : Char := '\ufeff'

structure Cursor where
  rest : List Char
  /-- How many characters the whole text has, which bounds every loop over it. -/
  size : Nat
  index : Nat := 0
  line : Nat := 0
  column : Nat := 0

namespace Cursor

def ofText (s : String) : Cursor := { rest := s.toList, size := s.length }

def peek (c : Cursor) : Char := c.rest.headD endMark

/-- The character `n` places ahead. -/
def peekAt (c : Cursor) (n : Nat) : Char := (c.rest.drop n).headD endMark

/-- Step over a character. -/
def next (c : Cursor) : Cursor :=
  match c.rest with
  | [] => c
  | x :: rest =>
    if isBreak x then { c with rest, index := c.index + 1, line := c.line + 1, column := 0 }
    else { c with rest, index := c.index + 1
                  column := if x = byteOrderMark then c.column else c.column + 1 }

def skip : Nat → Cursor → Cursor
  | 0, c => c
  | n + 1, c => skip n c.next

/-- The characters that satisfy `p`, and the cursor behind them. -/
def span (p : Char → Bool) (c : Cursor) : List Char × Cursor :=
  let run := c.rest.takeWhile p
  (run, c.skip run.length)

def skipWhile (p : Char → Bool) (c : Cursor) : Cursor := (c.span p).2

def skipSpaces (c : Cursor) : Cursor := c.skipWhile (· = ' ')

/-- Skip to the end of the line if a comment begins here. -/
def skipComment (c : Cursor) : Cursor := if c.peek = '#' then c.skipWhile (!isBreak ·) else c

/-- Step over a line break, if there is one; the separators of lines and paragraphs stay what they are
and all others become line feeds. -/
def lineBreak (c : Cursor) : List Nat × Cursor :=
  if c.peek = '\u2028' || c.peek = '\u2029' then ([c.peek.toNat], c.next)
  else if isBreak c.peek then ([10], c.next)
  else ([], c)

/-- Whether three signs of this kind stand here by themselves. -/
def hasMark (sign : Char) (c : Cursor) : Bool :=
  c.rest.take 3 = List.replicate 3 sign && isGap (c.peekAt 3)

/-- Whether a document begins or ends on this line. -/
def atDocumentMark (c : Cursor) : Bool := c.hasMark '-' || c.hasMark '.'

end Cursor
end Yaml
end GitPractice
