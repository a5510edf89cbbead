import GitPractice.Screen.Layout

/-!
# Tables

A table is a grid of texts in a box. A column is as wide as its widest text,
with a space on either side, and every line of the table has the same width. A
text with line breaks makes its row as many lines high; the other cells of the
row are filled up below, and those of the heading above. A table that is wider
than the terminal is shrunk: its widest columns give up what is too much, as
evenly as it goes, and their texts are broken and cut off.
-/

namespace GitPractice
namespace Screen

/-- The strokes of one line of a box: left end, filling, crossing, right end. -/
structure Strokes where
  left : Char
  fill : Char
  cross : Char
  right : Char

/-- The edges of the lines that hold texts: left end, divider, right end. -/
structure Edges where
  left : Char
  divider : Char
  right : Char

structure Box where
  top : Strokes
  heading : Edges
  /-- The line under the heading. -/
  rule : Strokes
  row : Edges
  bottom : Strokes

namespace Box

def rounded : Box where
  top := ⟨'╭', '─', '┬', '╮'⟩
  heading := ⟨'│', '│', '│'⟩
  rule := ⟨'├', '─', '┼', '┤'⟩
  row := ⟨'│', '│', '│'⟩
  bottom := ⟨'╰', '─', '┴', '╯'⟩

/-- Nothing but a line under the heading. -/
def simple : Box where
  top := ⟨' ', ' ', ' ', ' '⟩
  heading := ⟨' ', ' ', ' '⟩
  rule := ⟨' ', '─', '─', ' '⟩
  row := ⟨' ', ' ', ' '⟩
  bottom := ⟨' ', ' ', ' ', ' '⟩

/-- A square box with a heavy heading. -/
def heavyHead : Box where
  top := ⟨'┏', '━', '┳', '┓'⟩
  heading := ⟨'┃', '┃', '┃'⟩
  rule := ⟨'┡', '━', '╇', '┩'⟩
  row := ⟨'│', '│', '│'⟩
  bottom := ⟨'└', '─', '┴', '┘'⟩

end Box

structure Column where
  heading : Styled := {}
  cells : List Styled
  centered : Bool := false
  /-- The width of the texts when it does not depend on them. -/
  fixedWidth : Option Nat := none

structure Table where
  title : Option String := none
  box : Box
  showHeading : Bool := true
  columns : List Column := []

/-- A quotient rounded to the nearest number, and halves to the even one. -/
def nearest (n d : Nat) : Nat :=
  if 2 * (n % d) < d then n / d
  else if d < 2 * (n % d) then n / d + 1
  else n / d + n / d % 2

/-- Take so much away from widths, of each an equal share of what is left to take, but no more than its
limit. `shares` is the number of those with a limit above zero. -/
def reduce (total shares : Nat) : List (Nat × Nat) → List Nat
  | [] => []
  | (limit, width) :: rest =>
    if limit = 0 then width :: reduce total shares rest
    else
      let part := min limit (nearest total shares)
      (width - part) :: reduce (total - part) (shares - 1) rest

/-- What each width gives up at most in one round, when so many columns are too many: the widest of those
that may shrink get no smaller than the next one. -/
def limits (excess : Nat) (widths : List (Bool × Nat)) : List (Nat × Nat) :=
  let free := (widths.filter (·.1)).map (·.2)
  let widest := free.foldl max 0
  let next := (free.filter (· ≠ widest)).foldl max 0
  widths.map fun w => (if w.1 && w.2 = widest then min excess (widest - next) else 0, w.2)

/-- Shrink widths in rounds until they take no more than `room` together, or none of those that may shrink
has anything left. -/
def collapse (room : Nat) : (rounds : Nat) → List (Bool × Nat) → List Nat
  | 0, widths => widths.map (·.2)
  | rounds + 1, widths =>
    let excess := totalWidth (widths.map (·.2)) - room
    let limits := limits excess widths
    let shares := limits.countP (0 < ·.1)
    if shares = 0 then widths.map (·.2)
    else collapse room rounds ((widths.map (·.1)).zip (reduce excess shares limits))

namespace Table

/-- The columns that the strokes of the box take. -/
def boxWidth (t : Table) : Nat := t.columns.length + 1

/-- The texts of a column from top to bottom. -/
def texts (t : Table) (c : Column) : List Styled :=
  if t.showHeading then c.heading :: c.cells else c.cells

/-- The width of a column with its padding, in a place of `room` columns. One without any text takes them
all. -/
def columnWidth (t : Table) (room : Nat) (c : Column) : Nat :=
  min room (match c.fixedWidth, t.texts c with
    | some width, _ => width + 2
    | none, [] => room
    | none, texts => (texts.map fun s => measure s.text).foldl max 0 + 2)

/-- Widths that take no more than `room` together. When the columns that may shrink have nothing left, the
others shrink too. -/
def narrow (t : Table) (room : Nat) (widths : List Nat) : List Nat :=
  let widths := collapse room (totalWidth widths) ((t.columns.map (·.fixedWidth.isNone)).zip widths)
  if totalWidth widths ≤ room then widths
  else reduce (totalWidth widths - room) (widths.countP (0 < ·)) (widths.map fun w => (w, w))

/-- The widths of the columns on a terminal of so many columns. A column that has been shrunk may need
less. -/
def widths (t : Table) (columns : Nat) : List Nat :=
  let room := columns - t.boxWidth
  let natural := t.columns.map fun c => max 1 (t.columnWidth room c)
  if totalWidth natural ≤ room then natural
  else List.zipWith t.columnWidth (t.narrow room natural) t.columns

def stroke (s : Strokes) (widths : List Nat) : List Char :=
  s.left :: ((widths.map fun w => List.replicate w s.fill).intersperse [s.cross]).flatten ++ [s.right]

/-- The lines of a text in its column; a column without room for text has none. -/
def cellLines (c : Column) (width : Nat) (text : Styled) : List Styled :=
  if width ≤ 2 then [] else text.layOut .ellipsis (width - 2) c.centered

/-- A line of a cell with its padding. -/
def padded (width : Nat) (line : Styled) : List Char :=
  let inner := adjust (width - 2) line.segments
  (adjust width (adjust width ([' '] :: inner ++ [[' ']]))).flatten

/-- Fill up a cell to the height of its row, above or below. -/
def align (atBottom : Bool) (height width : Nat) (lines : List (List Char)) : List (List Char) :=
  let missing := List.replicate (height - lines.length) (List.replicate width ' ')
  if atBottom then missing ++ lines else lines ++ missing

def rowLines (t : Table) (widths : List Nat) (edges : Edges) (atBottom : Bool) (texts : List Styled) :
    List (List Char) :=
  let cells := (t.columns.zip (widths.zip texts)).map fun (c, width, text) =>
    (width, (cellLines c width text).map (padded width))
  let height := (cells.map (·.2.length)).foldl max 1
  let cells := cells.map fun (width, lines) => align atBottom height width lines
  (List.range height).map fun i =>
    edges.left :: ((cells.map fun lines => lines.getD i []).intersperse [edges.divider]).flatten ++ [edges.right]

/-- The number of rows below the heading. -/
def rowCount (t : Table) : Nat := (t.columns.map (·.cells.length)).foldl max 0

/-- The texts of the heading, from left to right. -/
def headings (t : Table) : List Styled := t.columns.map (·.heading)

/-- The texts of the rows below it. -/
def rows (t : Table) : List (List Styled) :=
  (List.range t.rowCount).map fun i => t.columns.map fun c => c.cells.getD i {}

/-- Why the table cannot be shown in the styles of its texts. They count row by row, as far as there is
room for them. -/
def failure? (t : Table) (columns : Nat) : Option Text.IntegerError :=
  ((if t.showHeading then [t.headings] else []) ++ t.rows).findSome? fun texts =>
    (t.columns.zip ((t.widths columns).zip texts)).findSome? fun (c, width, text) =>
      (cellLines c width text).findSome? Styled.failure?

/-- The width of all lines with columns of the given widths. -/
def width (t : Table) (widths : List Nat) : Nat := totalWidth widths + t.boxWidth

/-- The lines with columns of the given widths. -/
def lines (t : Table) (widths : List Nat) : List (List Char) :=
  let row (first : Bool) := t.rowLines widths (if first then t.box.heading else t.box.row) false
  (match t.title with
    | some title => ((Styled.plain title).layOut .fold (t.width widths) true).map (·.text)
    | none => []) ++
  [stroke t.box.top widths] ++
  (if t.showHeading then
      t.rowLines widths t.box.heading true t.headings ++ [stroke t.box.rule widths] ++ t.rows.flatMap (row false)
    else
      match t.rows with
      | first :: rest => row true first ++ rest.flatMap (row false)
      | [] => []) ++
  [stroke t.box.bottom widths]

/-- The table on a terminal of so many columns. When there is not even room for its box, the lines end
where the terminal does. -/
def render (t : Table) (columns : Nat) : String :=
  let widths := t.widths columns
  let lines := if columns < t.width widths then (t.lines widths).map (Text.resize columns) else t.lines widths
  if columns = 0 then "" else String.ofList (lines.flatMap (· ++ ['\n']))

end Table
end Screen
end GitPractice
