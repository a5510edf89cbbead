import GitPractice.Screen.Markup.Codes
import GitPractice.Screen.Markup.Literal.Basic
import GitPractice.Screen.Styled

/-!
# Markup

Styled text carries its styles in tags between square brackets, such as
`[bold]` and `[/bold]`. On a screen without colours the tags vanish and the rest
stays. A bracket is no tag unless a small letter or one of `/`, `@`, `#` follows
and a closing bracket comes before the next opening one; a backslash before a tag
makes it plain text. A closing tag must have an open one to close, and a tag for
a handler must have a literal for its arguments by the time it is closed. In the
text between the tags codes are replaced by the emoji that they stand for.
-/

namespace GitPractice
namespace Markup

inductive Piece where
  | text (content : List Char)
  /-- A tag with its place in the text and what stands between its brackets. -/
  | tag (position : Nat) (content : List Char)
deriving DecidableEq

inductive Error where
  /-- A closing tag for a style that is not open. -/
  | unmatched (content : String) (position : Nat)
  /-- A closing tag without a name where nothing is open. -/
  | nothingToClose (position : Nat)
  /-- The arguments of a handler, out of what is written behind its name, are no literal. -/
  | badArguments (arguments written : String) (failure : Literal.Failure)
  /-- A component of a colour is no number. -/
  | component (error : Text.IntegerError)
deriving DecidableEq

def Error.message : Error → String
  | .unmatched content position =>
    "closing tag '[" ++ content ++ "]' at position " ++ toString position ++
      " doesn't match any open tag"
  | .nothingToClose position =>
    "closing tag '[/]' at position " ++ toString position ++ " has nothing to close"
  | .badArguments arguments written (.syntaxError message) =>
    "error parsing " ++ Text.quoted arguments ++ " in " ++ Text.quoted written ++ "; " ++ message
  | .badArguments _ written failure =>
    "error parsing " ++ Text.quoted written ++ "; " ++ failure.message
  | .component _ => "no component of a colour"

def startsTag (c : Char) : Bool := c.isLower || c = '/' || c = '@' || c = '#'

/-- The characters up to the first closing bracket, if no opening one comes before it. -/
def upToBracket : List Char → Option (List Char)
  | [] => none
  | c :: cs =>
    if c = ']' then some []
    else if c = '[' then none
    else (upToBracket cs).map (c :: ·)

/-- What stands in the tag that the text after an opening bracket makes it. -/
def tagContent? : List Char → Option (List Char)
  | c :: cs => if startsTag c then (upToBracket cs).map (c :: ·) else none
  | [] => none

/-- The text read so far, in reverse, as a piece; nothing for an empty one. -/
def flush (plain : List Char) : List Piece :=
  if plain.isEmpty then [] else [.text plain.reverse]

/-- Split markup into text and tags. `position` counts the characters read, of which `skip` more
belong to the tag just read, `slashes` is the number of backslashes just before, and `plain` the
text before them in reverse. Every two backslashes before a tag stand for one. -/
def pieces (position skip slashes : Nat) (plain : List Char) : List Char → List Piece
  | [] => flush (List.replicate slashes '\\' ++ plain)
  | c :: cs =>
    if 0 < skip then pieces (position + 1) (skip - 1) 0 [] cs
    else if c = '\\' then pieces (position + 1) 0 (slashes + 1) plain cs
    else if c = '[' then
      match tagContent? cs with
      | some content =>
        flush plain ++ flush (List.replicate (slashes / 2) '\\') ++
          (if slashes % 2 = 1 then Piece.text ('[' :: content ++ [']']) else Piece.tag position content) ::
          pieces (position + 1) (content.length + 1) 0 [] cs
      | none => pieces (position + 1) 0 0 ('[' :: List.replicate slashes '\\' ++ plain) cs
    else pieces (position + 1) 0 0 (c :: List.replicate slashes '\\' ++ plain) cs

/-- A backslash before a bracket that starts no tag vanishes too. -/
def unescape : List Char → List Char
  | '\\' :: '[' :: cs => '[' :: unescape cs
  | c :: cs => c :: unescape cs
  | [] => []

/-- A tag by its name and what stands behind an equals sign. -/
structure Tag where
  name : String
  parameters : Option String

namespace Tag

def ofContent (content : List Char) : Tag :=
  let name := content.takeWhile (· ≠ '=')
  { name := String.ofList name
    parameters := if content.contains '=' then some (String.ofList (content.drop (name.length + 1))) else none }

/-- The tag as the name of a style. -/
def styleName (t : Tag) : String :=
  match t.parameters with
  | some parameters => t.name ++ " " ++ parameters
  | none => t.name

/-- The arguments for a handler: what stands in round brackets behind its name, or all of it. -/
def handlerArguments (written : List Char) : List Char :=
  let behind := written.dropWhile fun c => Text.isWord c || c = '.'
  if behind.isEmpty then ['(', ')']
  else if behind.head? = some '(' && behind.getLast? = some ')' && !behind.contains '\n' then behind
  else written

/-- Check a handler when its tag is closed. -/
def checkHandler (t : Tag) : Except Error Unit :=
  match t.parameters with
  | none => .ok ()
  | some "" => .ok ()
  | some written =>
    let arguments := String.ofList (handlerArguments (Text.stripChars written.toList))
    match Literal.failure? arguments with
    | some failure => .error (.badArguments arguments written failure)
    | none => .ok ()

end Tag

/-- A tag that is not closed yet, with the place in the text where it stands. -/
structure OpenTag where
  tag : Tag
  start : Nat

namespace OpenTag

/-- Whether the tag is for a handler, which is no style. -/
def isHandler (t : OpenTag) : Bool := Text.startsWith t.tag.name "@"

/-- The part of a text from a tag up to its end. -/
def span (t : OpenTag) (text : List Char) (style : String) : Screen.Span :=
  { style, start := t.start, stop := text.length }

end OpenTag

/-- The last open tag of a name, with the other open tags. -/
def takeTag (name : String) : List OpenTag → Option (OpenTag × List OpenTag)
  | [] => none
  | t :: ts =>
    if t.tag.name = name then some (t, ts)
    else (takeTag name ts).map fun found => (found.1, t :: found.2)

def canonical (name : String) : Except Error String := (Style.canonical name).mapError .component

/-- The open tag that a closing one closes, with the other open tags. -/
def close (opened : List OpenTag) (position : Nat) (content : List Char) :
    Except Error (OpenTag × List OpenTag) :=
  let name := Text.strip (Tag.ofContent content).name
  if name = "" then
    match opened with
    | t :: ts => .ok (t, ts)
    | [] => .error (.nothingToClose position)
  else do
    match takeTag (← canonical name) opened with
    | some found => return found
    | none => throw (.unmatched (String.ofList ('/' :: content)) position)

/-- A text with its parts in order: one that begins earlier first, and of those that begin at one place
the one that was closed last. -/
def styled (text : List Char) (spans : List Screen.Span) : Screen.Styled :=
  { text, spans := spans.reverse.mergeSort fun p q => p.start ≤ q.start }

/-- Add the pieces to the text before them. `spans` are its parts by the order in which they were closed,
and `opened` holds the open tags by their canonical names, the last one first; those that are never closed
reach to the end. -/
def addPieces (emoji : Screen.EmojiTable) (text : List Char) (spans : List Screen.Span) (opened : List OpenTag) :
    List Piece → Except Error Screen.Styled
  | [] => .ok (styled text (spans ++ opened.map fun t => t.span text t.tag.styleName))
  | .text content :: rest =>
    addPieces emoji (text ++ Screen.withoutControls (replaceCodes emoji 0 (unescape content))) spans opened rest
  | .tag position content :: rest =>
    match content with
    | '/' :: closing => do
      let (t, opened) ← close opened position closing
      if t.isHandler then t.tag.checkHandler
      let style := if t.isHandler then "" else t.tag.styleName
      addPieces emoji text (spans ++ [t.span text style]) opened rest
    | content => do
      let t := Tag.ofContent content
      let opened := { tag := { t with name := ← canonical t.name }, start := text.length } :: opened
      addPieces emoji text spans opened rest

/-- What markup says. -/
def render (emoji : Screen.EmojiTable) (markup : String) : Except Error Screen.Styled :=
  addPieces emoji [] [] [] (pieces 0 0 0 [] markup.toList)

end Markup
end GitPractice
