/-! The edit distance of two texts: how many characters must be inserted, removed or replaced to
turn one into the other.
-/

namespace Phrasebook.Text

/-- Goes on with a row of the table of distances. It needs the cell to the left, the cell diagonally
above, and the cells above the rest of the row.
-/
def nextCells (c : Char) : List Char → Nat → Nat → List Nat → List Nat
  | t :: target, left, diagonal, above :: row =>
      let cell := min (min (left + 1) (above + 1)) (diagonal + if c = t then 0 else 1)
      cell :: nextCells c target cell above row
  | _, _, _, _ => []

/-- The distances to the beginnings of the target after one more character c, from the distances
`row` before it.
-/
def nextRow (target : List Char) (row : List Nat) (c : Char) : List Nat :=
  match row with
  | [] => []
  | first :: row => (first + 1) :: nextCells c target (first + 1) first row

/-- The least number of edits that turn the source into the target. -/
def editDistance (source target : String) : Nat :=
  (source.toList.foldl (nextRow target.toList) (List.range (target.toList.length + 1))).getLastD 0

end Phrasebook.Text
