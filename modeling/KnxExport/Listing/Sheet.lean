import KnxExport.Text.Width

/-!
# Tables drawn in characters

A sheet has a row of heads and rows of cells, and a cell has one or several lines. A column is as
wide as the widest line in it, with a space on both sides, and every line of the sheet is drawn to
the same width: lines of text are filled with spaces, and a cell with fewer lines than its row gets
empty ones.
-/

namespace KnxExport.Listing.Sheet

/-- A cell, as its lines. -/
abbrev Cell := List (List Char)

/-- The lines of a text in a cell. -/
def cellOfText (text : String) : Cell :=
  text.toList.splitOn '\n'

/-- The width of the widest line. -/
def cellWidth (cell : Cell) : Nat :=
  (cell.map Text.width).foldr max 0

/-- The width of a column: that of its widest cell. -/
def columnWidth (rows : List (List Cell)) (column : Nat) : Nat :=
  (rows.map fun row => cellWidth (row.getD column [])).foldr max 0

/-- The widths of the first `count` columns. -/
def columnWidths (count : Nat) (rows : List (List Cell)) : List Nat :=
  (List.range count).map (columnWidth rows)

/-- A line of a cell, filled with spaces to the width of its column and set off by one on both
sides. -/
def fitted (width : Nat) (line : List Char) : List Char :=
  ' ' :: (line ++ List.replicate (width - Text.width line) ' ' ++ [' '])

/-- One line of a row, which every column takes from its cell if it has that many. -/
def rowLine (widths : List Nat) (row : List Cell) (index : Nat) : List Char :=
  let fields := List.zipWith (fun width cell => fitted width (cell.getD index [])) widths row
  '|' :: (['|'].intercalate fields ++ ['|'])

/-- The number of lines that a row takes. -/
def rowHeight (row : List Cell) : Nat :=
  (row.map List.length).foldr max 0

/-- The lines of a row. -/
def rowLines (widths : List Nat) (row : List Cell) : List (List Char) :=
  (List.range (rowHeight row)).map (rowLine widths row)

/-- A rule across the sheet: how it ends, what it is drawn with, and how it crosses the lines
between columns. -/
def rule (edge stroke crossing : Char) (widths : List Nat) : List Char :=
  edge :: ([crossing].intercalate (widths.map fun w => List.replicate (w + 2) stroke) ++ [edge])

/-- The rule above and below the sheet. -/
def border : List Nat → List Char := rule '+' '-' '+'

/-- The rule below the heads. -/
def headRule : List Nat → List Char := rule '+' '=' '='

/-- The rule between two rows. -/
def innerRule : List Nat → List Char := rule '|' '-' '+'

/-- The lines of a sheet. -/
def lines (heads : List Cell) (rows : List (List Cell)) : List (List Char) :=
  let widths := columnWidths heads.length (heads :: rows)
  [border widths] ++ rowLines widths heads ++ [headRule widths] ++
    [innerRule widths].intercalate (rows.map (rowLines widths)) ++ [border widths]

end KnxExport.Listing.Sheet
