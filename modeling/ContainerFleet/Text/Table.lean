import ContainerFleet.Text.Width

/-!
Tables for a terminal: a frame with rounded corners, a heading set off by a line, one blank on
both sides of each cell. A cell may have several lines.
-/

namespace ContainerFleet.Text

/-- The characters of a horizontal line: at the left, between columns, and at the right. -/
structure Rule where
  left : Char
  middle : Char
  right : Char

/-- The characters that a frame is drawn with. -/
structure Frame where
  top : Rule
  underHeading : Rule
  bottom : Rule
  horizontal : Char
  vertical : Char

def roundedFrame : Frame where
  top := ⟨'╭', '┬', '╮'⟩
  underHeading := ⟨'├', '┼', '┤'⟩
  bottom := ⟨'╰', '┴', '╯'⟩
  horizontal := '─'
  vertical := '│'

/-- The lines of a cell. -/
def cellLines (cell : List Char) : List (List Char) :=
  cell.splitOn '\n'

def cellWidth (cell : List Char) : Nat :=
  ((cellLines cell).map width).foldl max 0

/-- The width of each column: that of its widest cell. -/
def columnWidths (columns : Nat) (rows : List (List (List Char))) : List Nat :=
  (List.range columns).map fun i =>
    (rows.map fun row => cellWidth (row.getD i [])).foldl max 0

/-- A line of a cell, filled up with blanks. -/
def pad (columnWidth : Nat) (line : List Char) : List Char :=
  line ++ List.replicate (columnWidth - width line) ' '

def ruleLine (frame : Frame) (rule : Rule) (widths : List Nat) : List Char :=
  rule.left :: List.intercalate [rule.middle]
    (widths.map fun w => List.replicate (w + 2) frame.horizontal) ++ [rule.right]

/-- The lines of one row. -/
def rowLines (frame : Frame) (widths : List Nat) (row : List (List Char)) : List (List Char) :=
  let cells := row.map cellLines
  let height := (cells.map List.length).foldl max 1
  (List.range height).map fun i =>
    frame.vertical :: (List.zip widths cells).flatMap fun (w, lines) =>
      ' ' :: pad w (lines.getD i []) ++ [' ', frame.vertical]

/-- A table with a heading. -/
def table (frame : Frame) (heading : List String) (rows : List (List String)) : List Char :=
  let heading := heading.map String.toList
  let rows := rows.map fun row => row.map String.toList
  let widths := columnWidths heading.length (heading :: rows)
  List.intercalate ['\n']
    ([ruleLine frame frame.top widths] ++ rowLines frame widths heading
      ++ [ruleLine frame frame.underHeading widths]
      ++ rows.flatMap (rowLines frame widths) ++ [ruleLine frame frame.bottom widths])

end ContainerFleet.Text
