import GitPractice.Screen.Line
import GitPractice.Screen.Style

/-!
# Styled texts

A text can have a style as a whole, and further styles for parts of it. Nothing
of them is seen on a screen without colours, but they cut the text into segments
at the places where a part begins or ends.
-/

namespace GitPractice
namespace Screen

/-- A part of a text, from one place up to another, and its style. -/
structure Span where
  style : String
  start : Nat
  stop : Nat
deriving DecidableEq, Inhabited

namespace Span

/-- Whether anything stands in the part. -/
def isEmpty (p : Span) : Bool := p.stop ≤ p.start

def shift (p : Span) (places : Nat) : Span :=
  { p with start := p.start + places, stop := p.stop + places }

/-- What is left of the part in a text that is cut off at a place. -/
def upTo? (stop : Nat) (p : Span) : Option Span :=
  if p.start < stop then some { p with stop := min p.stop stop } else none

/-- What is left of the part between two places. -/
def between? (start stop : Nat) (p : Span) : Option Span :=
  let inner := { p with start := max p.start start - start, stop := min p.stop stop - start }
  if inner.isEmpty then none else some inner

end Span

structure Styled where
  text : List Char := []
  /-- The style of the whole text. -/
  style : String := ""
  spans : List Span := []
deriving DecidableEq, Inhabited

namespace Styled

/-- Text without a style of its own. -/
def plain (s : String) : Styled := { text := withoutControls s.toList }

/-- Add text at the end, with a style unless that is empty. -/
def add (s : Styled) (content : String) (style : String := "") : Styled :=
  let more := withoutControls content.toList
  { s with
    text := s.text ++ more
    spans := if content = "" || style = "" then s.spans
      else s.spans ++ [{ style, start := s.text.length, stop := s.text.length + more.length }] }

/-- Put another text in place of this one. Parts that were behind its end are gone. -/
def replace (s : Styled) (text : List Char) : Styled :=
  { s with
    text
    spans := if text.length < s.text.length then s.spans.filterMap (Span.upTo? text.length) else s.spans }

/-- What stands from one place up to another. -/
def part (s : Styled) (start stop : Nat) : Styled :=
  { s with
    text := (s.text.drop start).take (stop - start)
    spans := s.spans.filterMap (Span.between? start stop) }

/-- Cut at places that go up. Nothing is left of parts in which nothing stands, if there is a cut. -/
def cutAt (s : Styled) (places : List Nat) : List Styled :=
  if places.isEmpty then [s] else List.zipWith s.part (0 :: places) (places ++ [s.text.length])

/-- The places behind a character. -/
def placesBehind (c : Char) (cs : List Char) : List Nat :=
  (cs.zipIdx.filter fun entry => entry.1 = c).map (·.2 + 1)

/-- The lines without their ends. -/
def lines (s : Styled) : List Styled :=
  let starts := placesBehind '\n' s.text
  if starts.isEmpty then [s]
  else List.zipWith (fun start stop => s.part start (stop - 1)) (0 :: starts) (starts ++ [s.text.length + 1])

/-- One text behind another. -/
def append (s t : Styled) : Styled :=
  { s with text := s.text ++ t.text, spans := s.spans ++ t.spans.map (Span.shift · s.text.length) }

/-- Lengthen a text by spaces. A part that reaches to its end goes on. -/
def extend (s : Styled) (count : Nat) : Styled :=
  { s with
    text := s.text ++ Text.spaces count
    spans := s.spans.map fun p => if s.text.length ≤ p.stop then { p with stop := p.stop + count } else p }

/-- Put spaces in place of the tab at the end of a part of a line, and add the part to those before it.
The number is the column behind them. -/
def addPart (before : Styled × Nat) (part : Styled) : Styled × Nat :=
  if part.text.getLast? = some '\t' then
    let part := { part with text := part.text.dropLast ++ [' '] }
    let column := before.2 + Text.width part.text
    (before.1.append (part.extend (toNextStop column)), column + toNextStop column)
  else (before.1.append part, before.2 + Text.width part.text)

/-- Replace tabs in a line by spaces, at least one each. -/
def expandTabs (s : Styled) : Styled :=
  if s.text.contains '\t' then
    ((s.cutAt (placesBehind '\t' s.text)).foldl addPart ({ style := s.style }, 0)).1
  else s

/-- The texts between the places where a part begins or ends. -/
def segments (s : Styled) : List (List Char) :=
  let places := (s.spans.flatMap fun p => [p.start, p.stop]).mergeSort
  (s.cutAt places).map (·.text)

/-- The styles that apply, the one of the whole text first. -/
def styles (s : Styled) : List String := (if s.style = "" then [] else [s.style]) ++ s.spans.map (·.style)

/-- Why a text cannot be shown in its styles: one that names no style is passed over, but a colour must
have numbers for its components. -/
def failure? (s : Styled) : Option Text.IntegerError :=
  s.styles.findSome? fun style =>
    match Style.read style with
    | .error e => some e
    | .ok _ => none

end Styled

end Screen
end GitPractice
