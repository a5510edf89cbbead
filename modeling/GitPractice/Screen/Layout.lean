import GitPractice.Screen.Styled
import GitPractice.Screen.Terminal

/-!
# Layout

A text is put into a place of a certain width, which is a cell of a table or the
whole terminal. A line that is wider is broken between words. What becomes of a
word that is wider than the place by itself depends: in a cell it is cut off with
an ellipsis for what is missing, and elsewhere it goes on in the next line. In a
cell a line that is narrower is filled up with spaces. The line is measured once
as a whole and once more segment by segment. The two can differ where characters
of different segments would belong together.
-/

namespace GitPractice
namespace Screen

namespace Styled

/-- Break a line between words; a line without a word stays whole. -/
def wrap (overflow : Overflow) (width : Nat) (s : Styled) : List Styled :=
  s.cutAt (breaks overflow width 0 0 (wordsWithBlanks [] false false s.text))

/-- Remove blanks at the end as far as the line has more characters than there are columns. -/
def trimExcess (width : Nat) (s : Styled) : Styled :=
  s.replace (s.text.take (s.text.length - excess width s.text))

/-- Cut off what is too wide. -/
def truncate (overflow : Overflow) (width : Nat) (s : Styled) : Styled :=
  if width < Text.width s.text then
    s.replace (match overflow with
      | .fold => Text.resize width s.text
      | .ellipsis => Text.resize (width - 1) s.text ++ ['…'])
  else s

/-- Fill up the line on its right side. -/
def padRight (width : Nat) (s : Styled) : Styled :=
  { s with text := s.text ++ Text.spaces (width - Text.width s.text) }

def indent (count : Nat) (s : Styled) : Styled :=
  { s with text := Text.spaces count ++ s.text, spans := s.spans.map (Span.shift · count) }

/-- The line from the left edge of its place on. -/
def alignLeft (overflow : Overflow) (width : Nat) (s : Styled) : Styled :=
  if width < Text.width s.text then s.truncate overflow width else s.padRight width

/-- The line in the middle of its place. The odd space goes to the right. -/
def center (overflow : Overflow) (width : Nat) (s : Styled) : Styled :=
  let s := (s.replace (Text.dropEndWhile Text.isBlank s.text)).truncate overflow width
  (s.indent ((width - Text.width s.text) / 2)).padRight width

/-- The lines into which a text is broken. -/
def flow (overflow : Overflow) (width : Nat) (s : Styled) : List Styled :=
  s.lines.flatMap fun line => (line.expandTabs.wrap overflow width).map (trimExcess width)

/-- The lines of a text in a place of the given width. -/
def layOut (overflow : Overflow) (width : Nat) (centered : Bool) (s : Styled) : List Styled :=
  (s.flow overflow width).map (if centered then center overflow width else alignLeft overflow width)

end Styled

/-- Segments up to the one that fills the room. -/
def crop (room : Nat) : List (List Char) → List (List Char)
  | [] => []
  | s :: rest =>
    if Text.width s < room then s :: crop (room - Text.width s) rest else [Text.resize room s]

/-- Segments as far as there is room for them, each measured by itself. -/
def limit (room : Nat) (segments : List (List Char)) : List (List Char) :=
  if room < totalWidth (segments.map Text.width) then crop room segments else segments

/-- Make segments take so many columns together. -/
def adjust (width : Nat) (segments : List (List Char)) : List (List Char) :=
  let size := totalWidth (segments.map Text.width)
  if size < width then segments ++ [Text.spaces (width - size)] else limit width segments

/-- The lines of a text as they are printed outside tables; a terminal without columns shows none. -/
def printedLines (columns : Nat) (s : Styled) : List Styled :=
  if columns = 0 then [] else (s.flow .fold columns).map (Styled.truncate .fold columns)

/-- Text as it is printed outside tables. -/
def printed (columns : Nat) (s : Styled) : String :=
  String.ofList ((printedLines columns s).flatMap fun line => (limit columns line.segments).flatten ++ ['\n'])

end Screen
end GitPractice
