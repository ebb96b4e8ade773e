import Phrasebook.Text.Segments
import Phrasebook.Text.Width.Sequence

/-! Tables with a header, drawn with lines around them.
-/

namespace Phrasebook.Command.Table

open Phrasebook.Text

/-- Fills the text with spaces up to a width. -/
def pad (columns : Nat) (text : String) : String :=
  text ++ String.ofList (List.replicate (columns - width text) ' ')

/-- The width of the longest line of a cell. -/
def cellWidth (cell : String) : Nat :=
  ((segments '\n' cell).map width).foldl max 0

/-- The widths of the widest cells of the columns. -/
def columnWidths : List (List String) → List Nat
  | [] => []
  | [row] => row.map cellWidth
  | row :: rows => List.zipWith max (row.map cellWidth) (columnWidths rows)

/-- One line of a row between the borders. -/
def line (widths : List Nat) (cells : List String) : String :=
  "│" ++ String.intercalate " " ((widths.zip cells).map fun (columns, cell) =>
    " " ++ pad columns cell ++ " ") ++ "│"

/-- The lines of a row, as many as its highest cell has. -/
def rowLines (widths : List Nat) (row : List String) : List String :=
  let cells := row.map (segments '\n')
  let height := (cells.map List.length).foldl max 0
  (List.range height).map fun index => line widths (cells.map fun cell => cell.getD index "")

/-- A horizontal line. -/
def border (left stroke right : Char) (widths : List Nat) : String :=
  let columns := (widths.map (· + 2)).foldr (· + ·) (widths.length - 1)
  String.ofList (left :: (List.replicate columns stroke ++ [right]))

/-- The lines of a table. -/
def draw (header : List String) (rows : List (List String)) : List String :=
  let widths := columnWidths (header :: rows)
  [border '┌' '─' '┐' widths] ++ rowLines widths header ++ [border '╞' '═' '╡' widths]
    ++ rows.flatMap (rowLines widths) ++ [border '└' '─' '┘' widths]

end Phrasebook.Command.Table
