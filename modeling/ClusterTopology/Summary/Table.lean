import ClusterTopology.Summary.Status
import ClusterTopology.Text.Lines
import ClusterTopology.Text.Width

/-!
Tables, and how they are drawn with box characters on a display that is no
terminal. A cell may hold several lines. There a column is as wide as its widest
line, and at least one column of the display; one blank stands on either side of
it. A double line follows the header and a dashed line stands between rows. The
colours of the cells do not show, and as the display has no width there is none to
fit the columns to. How a terminal draws a table is left open.
-/

namespace ClusterTopology.Summary

/-- On which side of its column a cell stands. -/
inductive Alignment where
  | left
  | right
  deriving DecidableEq, Repr

/-- A cell: its text, its side, and the colour of its text if it has one of its own. -/
structure Cell where
  text : String
  alignment : Alignment := .left
  color? : Option Color := none
  deriving DecidableEq, Repr

namespace Cell

/-- The lines of a cell. There is at least one. -/
def lines (cell : Cell) : List (List Char) := Text.pieces (· == '\n') cell.text.toList

/-- The columns of the display that a cell takes. -/
def width (cell : Cell) : Nat := ((cell.lines.map Text.displayWidth).max?).getD 0

end Cell

/-- How the columns of a table are arranged. -/
inductive Arrangement where
  /-- Each column is as wide as it has to be. -/
  | fixed
  /-- The columns are fitted to the width of the display, if it has one. -/
  | dynamic
  deriving DecidableEq, Repr

/-- A table. Every row is meant to have as many cells as the header. -/
structure Table where
  arrangement : Arrangement := .fixed
  header : List Cell
  rows : List (List Cell)
  deriving DecidableEq, Repr

/-- The characters of a horizontal line: its ends, what it is drawn with, and
what stands where it meets the line between two columns. -/
structure Rule where
  left : Char
  line : Char
  crossing : Char
  right : Char

namespace Rule

def top : Rule := ⟨'┌', '─', '┬', '┐'⟩

def belowHeader : Rule := ⟨'╞', '═', '╪', '╡'⟩

def betweenRows : Rule := ⟨'├', '╌', '┼', '┤'⟩

def bottom : Rule := ⟨'└', '─', '┴', '┘'⟩

/-- A line across columns of these widths. -/
def draw (rule : Rule) (widths : List Nat) : List Char :=
  let strokes := widths.map fun width => List.replicate (width + 2) rule.line
  rule.left :: ([rule.crossing].intercalate strokes ++ [rule.right])

end Rule

namespace Table

/-- The widths of the columns. -/
def widths (table : Table) : List Nat :=
  (table.header :: table.rows).foldl
    (fun widths row => List.zipWith max widths (row.map Cell.width))
    (table.header.map fun _ => 1)

/-- A line of a cell, filled up to the width of its column. -/
def fill (alignment : Alignment) (width : Nat) (line : List Char) : List Char :=
  let blanks := List.replicate (width - Text.displayWidth line) ' '
  match alignment with
  | .left => line ++ blanks
  | .right => blanks ++ line

/-- One line across a row: the line of that number of every cell. A cell with
fewer lines is blank there. -/
def drawLine (widths : List Nat) (row : List Cell) (number : Nat) : List Char :=
  let part (cell : Cell) (width : Nat) : List Char :=
    ' ' :: (fill cell.alignment width (cell.lines[number]?.getD []) ++ [' '])
  let parts := List.zipWith part row widths
  '│' :: (['┆'].intercalate parts ++ ['│'])

/-- The lines of a row: as many as its highest cell has. -/
def drawRow (widths : List Nat) (row : List Cell) : List (List Char) :=
  let height := ((row.map fun cell => cell.lines.length).max?).getD 0
  (List.range height).map (drawLine widths row)

/-- The lines of a table on a display that is no terminal. -/
def draw (table : Table) : List (List Char) :=
  let widths := table.widths
  let rows := table.rows.map (drawRow widths)
  let body := [Rule.betweenRows.draw widths].intercalate rows
  [Rule.top.draw widths] ++ drawRow widths table.header ++ [Rule.belowHeader.draw widths] ++
    body ++ [Rule.bottom.draw widths]

/-- The text of a table on such a display, without a line feed at its end. -/
def render (table : Table) : String :=
  "\n".intercalate (table.draw.map String.ofList)

end Table

end ClusterTopology.Summary
