/-
Tables in boxes with round corners. Every column is as wide as its widest cell,
and every row as high as its highest cell; a cell has a line for each line of its
text.
-/

import FleetView.Text.Width
import FleetView.Text.Blank

namespace FleetView.Text

/-- The lines of a cell. -/
def cellLines (cell : String) : List (List Char) := splitOn '\n' cell.toList

/-- The width of a cell. -/
def cellWidth (cell : String) : Nat :=
  (cellLines cell).foldl (fun widest line => max widest (width line)) 0

/-- The widths of the columns. -/
def columnWidths (header : List String) (rows : List (List String)) : List Nat :=
  rows.foldl (fun widths row => List.zipWith max widths (row.map cellWidth))
    (header.map cellWidth)

/-- A line from edge to edge of the box. -/
def ruleLine (left middle right : String) (widths : List Nat) : String :=
  left ++ joinWith middle (widths.map fun columns =>
    String.ofList (List.replicate (columns + 2) '─')) ++ right

/-- A text with spaces behind it, up to a width. -/
def padded (columns : Nat) (line : List Char) : String :=
  String.ofList (line ++ List.replicate (columns - width line) ' ')

/-- The lines of a row. -/
def rowLines (widths : List Nat) (row : List String) : List String :=
  let cells := row.map cellLines
  let height := cells.foldl (fun highest lines => max highest lines.length) 1
  (List.range height).map fun position =>
    "│ " ++ joinWith " │ " (List.zipWith (fun columns lines =>
      padded columns (lines.getD position [])) widths cells) ++ " │"

/-- The text of a table, without a line end behind it. -/
def table (header : List String) (rows : List (List String)) : String :=
  let widths := columnWidths header rows
  joinWith "\n" <|
    ruleLine "╭" "┬" "╮" widths :: rowLines widths header ++
    ruleLine "├" "┼" "┤" widths :: rows.flatMap (rowLines widths) ++
    [ruleLine "╰" "┴" "╯" widths]

end FleetView.Text
