import Mathlib.Order.Bounds.Defs
import Phrasebook.Text.EditDistance

/-! The edit distance is the least number of edits that turn one text into another. A cell of the
table of distances is some way of editing, since it goes on from one of its neighbours, and no way is
shorter, since one edit never changes a cell by more than one.
-/

namespace Phrasebook.Text

-----------------------------------------------------------------------------------------
-- Edits of a text
-----------------------------------------------------------------------------------------

/-- One edit: a character is inserted, removed or replaced. -/
inductive Edit : List Char → List Char → Prop
  | insert (before : List Char) (c : Char) (after : List Char)
    : Edit (before ++ after) (before ++ c :: after)
  | remove (before : List Char) (c : Char) (after : List Char)
    : Edit (before ++ c :: after) (before ++ after)
  | replace (before : List Char) (old new : Char) (after : List Char)
    : Edit (before ++ old :: after) (before ++ new :: after)

/-- The target comes out of the source by so many edits, one after another. -/
inductive Edits : Nat → List Char → List Char → Prop
  | done (text : List Char) : Edits 0 text text
  | step {n : Nat} {source between target : List Char} (first : Edit source between)
    (others : Edits n between target)
    : Edits (n + 1) source target

theorem Edit.cons {source target : List Char} (h : Edit source target) (c : Char)
    : Edit (c :: source) (c :: target) := by
  cases h with
  | insert before inserted after => exact .insert (c :: before) inserted after
  | remove before removed after => exact .remove (c :: before) removed after
  | replace before old new after => exact .replace (c :: before) old new after

theorem Edit.reverse {source target : List Char} (h : Edit source target)
    : Edit source.reverse target.reverse := by
  cases h with
  | insert before c after => simpa using Edit.insert after.reverse c before.reverse
  | remove before c after => simpa using Edit.remove after.reverse c before.reverse
  | replace before old new after => simpa using Edit.replace after.reverse old new before.reverse

namespace Edits

variable {m n : Nat} {source target : List Char}

theorem eq_of_zero (h : Edits 0 source target) : source = target := by
  cases h
  rfl

theorem cons (h : Edits n source target) (c : Char) : Edits n (c :: source) (c :: target) := by
  induction h with
  | done text => exact .done (c :: text)
  | step first others ih => exact .step (first.cons c) ih

theorem reverse (h : Edits n source target) : Edits n source.reverse target.reverse := by
  induction h with
  | done text => exact .done text.reverse
  | step first others ih => exact .step first.reverse ih

theorem reverse_iff : Edits n source.reverse target.reverse ↔ Edits n source target := by
  constructor
  · intro h
    simpa using h.reverse
  · exact reverse

theorem min (h : Edits m source target) (h' : Edits n source target)
    : Edits (min m n) source target := by
  rcases Nat.le_total m n with le | le
  · rwa [Nat.min_eq_left le]
  · rwa [Nat.min_eq_right le]

end Edits

-----------------------------------------------------------------------------------------
-- Cells of the table
-----------------------------------------------------------------------------------------

/-- The cell for what was read of the source and the beginning of the target before the cell, both
given from their last character on.
-/
def cell : List Char → List Char → Nat
  | [], before => before.length
  | c :: read, [] => (c :: read).length
  | c :: read, t :: before =>
      min (min (cell (c :: read) before + 1) (cell read (t :: before) + 1))
        (cell read before + if c = t then 0 else 1)
termination_by read before => read.length + before.length

theorem cell_nil_right (read : List Char) : cell read [] = read.length := by
  cases read <;> rw [cell]

theorem cell_self (text : List Char) : cell text text = 0 := by
  induction text with
  | nil => rw [cell, List.length_nil]
  | cons c text ih =>
      rw [cell, ih, if_pos rfl]
      exact Nat.min_zero _

theorem cell_cons_left_le (c : Char) (read before : List Char)
    : cell (c :: read) before ≤ cell read before + 1 := by
  cases before with
  | nil => simp [cell_nil_right]
  | cons t before =>
      rw [cell]
      omega

theorem cell_cons_right_le (t : Char) (read before : List Char)
    : cell read (t :: before) ≤ cell read before + 1 := by
  cases read with
  | nil => simp [cell]
  | cons c read =>
      rw [cell]
      omega

/-- Reading one more character makes a cell less by one at most, by induction along the row. -/
theorem le_cell_cons_left (c : Char) (read before : List Char)
    : cell read before ≤ cell (c :: read) before + 1 := by
  induction before with
  | nil =>
      rw [cell_nil_right, cell_nil_right, List.length_cons]
      omega
  | cons t before ih =>
      have beside := cell_cons_right_le t read before
      rw [cell]
      omega

theorem cell_replace_le (old new : Char) (read before : List Char)
    : cell (old :: read) before ≤ cell (new :: read) before + 1 := by
  induction before with
  | nil => simp [cell_nil_right]
  | cons t before ih =>
      rw [cell, cell]
      split <;> omega

/-- Texts whose cells differ by one at most stay so behind one more character. -/
theorem cell_cons_le_of_le {read other : List Char}
    (near : ∀ before, cell read before ≤ cell other before + 1) (c : Char) (before : List Char)
    : cell (c :: read) before ≤ cell (c :: other) before + 1 := by
  induction before with
  | nil => simpa [cell_nil_right] using near []
  | cons t before ih =>
      have above := near (t :: before)
      have diagonal := near before
      rw [cell, cell]
      omega

/-- One edit of what was read changes no cell by more than one, by induction on what stands in front
of the edit.
-/
theorem Edit.cell_le {source other : List Char} (h : Edit source other) (target : List Char)
    : cell source target ≤ cell other target + 1 := by
  cases h with
  | insert before c after =>
      induction before generalizing target with
      | nil => exact le_cell_cons_left c after target
      | cons first before ih => exact cell_cons_le_of_le ih first target
  | remove before c after =>
      induction before generalizing target with
      | nil => exact cell_cons_left_le c after target
      | cons first before ih => exact cell_cons_le_of_le ih first target
  | replace before old new after =>
      induction before generalizing target with
      | nil => exact cell_replace_le old new after target
      | cons first before ih => exact cell_cons_le_of_le ih first target

/-- No way of editing is shorter than the cell says, by induction on the edits. -/
theorem Edits.cell_le {n : Nat} {source target : List Char} (h : Edits n source target)
    : cell source target ≤ n := by
  induction h with
  | done text => exact Nat.le_of_eq (cell_self text)
  | step first others ih => exact Nat.le_trans (first.cell_le _) (Nat.succ_le_succ ih)

/-- There is a way of editing as short as the cell says, by recursion through the table: the cell to
the left inserts a character, the one above removes one, and the diagonal keeps or replaces one.
-/
theorem edits_cell (source target : List Char) : Edits (cell source target) source target := by
  induction source, target using cell.induct with
  | case1 target =>
      rw [cell]
      induction target with
      | nil => exact .done []
      | cons t target ih => exact .step (.insert [] t []) (ih.cons t)
  | case2 c source =>
      rw [cell]
      generalize c :: source = text
      induction text with
      | nil => exact .done []
      | cons c text ih => exact .step (.remove [] c text) ih
  | case3 c source t target left above diagonal =>
      have inserted : Edits (cell (c :: source) target + 1) (c :: source) (t :: target) :=
        .step (.insert [] t (c :: source)) (left.cons t)
      have removed : Edits (cell source (t :: target) + 1) (c :: source) (t :: target) :=
        .step (.remove [] c source) above
      have kept : Edits (cell source target + if c = t then 0 else 1) (c :: source)
          (t :: target) := by
        by_cases same : c = t
        · simpa [same] using diagonal.cons t
        · rw [if_neg same]
          exact .step (.replace [] c t source) (diagonal.cons t)
      rw [cell]
      exact (inserted.min removed).min kept

-----------------------------------------------------------------------------------------
-- Rows of the table
-----------------------------------------------------------------------------------------

/-- The cells of a row behind the one for the beginning `before` of the target. -/
def cellsBehind (read before : List Char) : List Char → List Nat
  | [] => []
  | t :: target => cell read (t :: before) :: cellsBehind read (t :: before) target

theorem nextCells_cellsBehind (c : Char) (read before target : List Char)
    : nextCells c target (cell (c :: read) before) (cell read before)
        (cellsBehind read before target) =
      cellsBehind (c :: read) before target := by
  induction target generalizing before with
  | nil => rfl
  | cons t target ih => rw [cellsBehind, cellsBehind, nextCells, ← ih, cell]

/-- Before anything is read, a cell counts the characters of the target before it. -/
theorem range'_eq_cells (before target : List Char)
    : List.range' before.length (target.length + 1) =
      cell [] before :: cellsBehind [] before target := by
  induction target generalizing before with
  | nil => simp [cell, cellsBehind]
  | cons t target ih =>
      have behind := ih (t :: before)
      rw [List.length_cons] at behind
      rw [List.length_cons, List.range'_succ, behind, cellsBehind, cell, cell]

/-- After the source is read, the row holds the cells for it, by induction on the source. -/
theorem foldl_nextRow (source read target : List Char)
    : source.foldl (nextRow target) (cell read [] :: cellsBehind read [] target) =
      cell (source.reverse ++ read) [] :: cellsBehind (source.reverse ++ read) [] target := by
  induction source generalizing read with
  | nil => rfl
  | cons c source ih =>
      have next : nextRow target (cell read [] :: cellsBehind read [] target) c =
          cell (c :: read) [] :: cellsBehind (c :: read) [] target := by
        have first : cell read [] + 1 = cell (c :: read) [] := by simp [cell_nil_right]
        rw [nextRow, first, nextCells_cellsBehind]
      rw [List.foldl_cons, next, ih, List.reverse_cons, List.append_assoc, List.singleton_append]

theorem getLastD_cellsBehind (read before target : List Char)
    : (cell read before :: cellsBehind read before target).getLastD 0 =
      cell read (target.reverse ++ before) := by
  induction target generalizing before with
  | nil => rfl
  | cons t target ih =>
      rw [cellsBehind, List.reverse_cons, List.append_assoc, List.singleton_append, ← ih]
      rfl

theorem editDistance_eq_cell (source target : String)
    : editDistance source target = cell source.toList.reverse target.toList.reverse := by
  have start := range'_eq_cells [] target.toList
  rw [List.length_nil, ← List.range_eq_range'] at start
  rw [editDistance, start, foldl_nextRow, getLastD_cellsBehind, List.append_nil, List.append_nil]

-----------------------------------------------------------------------------------------
-- Distances
-----------------------------------------------------------------------------------------

/-- The edit distance is the least number of edits that turn the source into the target. -/
theorem isLeast_editDistance (source target : String)
    : IsLeast {n | Edits n source.toList target.toList} (editDistance source target) := by
  rw [editDistance_eq_cell]
  constructor
  · exact Edits.reverse_iff.mp (edits_cell _ _)
  · intro n edits
    exact edits.reverse.cell_le

/-- Only a text itself is at no distance from it. -/
theorem editDistance_eq_zero_iff {source target : String}
    : editDistance source target = 0 ↔ source = target := by
  have least := isLeast_editDistance source target
  constructor
  · intro none
    have unchanged : Edits 0 source.toList target.toList := none ▸ least.1
    exact String.toList_inj.mp unchanged.eq_of_zero
  · rintro rfl
    exact Nat.le_zero.mp (least.2 (.done source.toList))

end Phrasebook.Text
