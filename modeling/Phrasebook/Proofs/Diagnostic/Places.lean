import Phrasebook.Diagnostic
import Phrasebook.Json.Fault
import Phrasebook.Proofs.Text.Bytes

/-! The place that a report points at. The reader of JSON counts newlines and the bytes behind the
last one. The byte that a report makes of such a place lies before the one that was meant, by one
for every line that ends with a carriage return and a newline.
-/

namespace Phrasebook

open Phrasebook.Text

/-- The bytes before an index in the text that the lines make with a newline between any two. They
end in the first line, or behind it and its newline.
-/
inductive Before : List (List Char) → Nat → List UInt8 → Prop
  | inside {line : List Char} {rest : List (List Char)} {index : Nat} (near : index ≤ size line)
    : Before (line :: rest) index ((bytes line).take index)
  | behind {line next : List Char} {rest : List (List Char)} {index : Nat} {before : List UInt8}
    (more : Before (next :: rest) index before)
    : Before (line :: next :: rest) (size line + 1 + index) (bytes line ++ newline :: before)

namespace Before

/-- The bytes of the whole text up to an index, by induction on the lines. -/
theorem of_take {lines : List (List Char)} (some_line : lines ≠ []) {index : Nat}
    (inside : index ≤ size (['\n'].intercalate lines))
    : Before lines index ((bytes (['\n'].intercalate lines)).take index) := by
  induction lines generalizing index with
  | nil => exact absurd rfl some_line
  | cons line rest ih =>
      cases rest with
      | nil =>
          rw [List.intercalate_singleton] at inside ⊢
          exact .inside inside
      | cons next rest =>
          have text : bytes (['\n'].intercalate (line :: next :: rest)) =
              bytes line ++ newline :: bytes (['\n'].intercalate (next :: rest)) := by
            rw [List.intercalate_cons_cons, bytes_append, bytes_append, List.append_assoc]
            rfl
          have length := length_bytes (['\n'].intercalate (line :: next :: rest))
          rw [text, List.length_append, List.length_cons, length_bytes, length_bytes] at length
          rw [text]
          by_cases near : index ≤ size line
          · rw [List.take_append_of_le_length (by rwa [length_bytes])]
            exact .inside near
          · obtain ⟨behind, rfl⟩ : ∃ behind, index = size line + 1 + behind :=
              ⟨index - (size line + 1), by omega⟩
            have taken : (bytes line ++ newline :: bytes (['\n'].intercalate (next :: rest))).take
                (size line + 1 + behind) =
                bytes line ++ newline ::
                  (bytes (['\n'].intercalate (next :: rest))).take behind := by
              rw [Nat.add_assoc, ← length_bytes, List.take_length_add_append, Nat.add_comm 1,
                List.take_succ_cons]
            rw [taken]
            exact .behind (ih (by simp) (by omega))

variable {lines : List (List Char)} {index : Nat} {before : List UInt8}

/-- Added up, the lines that are finished and the bytes of the one that is not give the index, apart
from the carriage returns that lines lose with their ends. By induction on the lines.
-/
theorem offset_add_returns (h : Before lines index before) (free : ∀ line ∈ lines, '\n' ∉ line)
    : (((linesOf lines).take (before.count newline)).map fun line => size line + 1).foldr (· + ·)
          (unfinished before).length
        + returns before
      = index := by
  induction h with
  | @inside line rest index near =>
      have unbroken := newline_not_mem_take (free line (by simp)) index
      rw [List.count_eq_zero_of_not_mem unbroken, unfinished_of_free unbroken,
        returns_of_free unbroken, List.length_take, length_bytes]
      simp [Nat.min_eq_left near]
  | @behind line next rest index before more ih =>
      rw [List.forall_mem_cons] at free
      have unbroken := newline_not_mem_bytes free.1
      have cut : linesOf (line :: next :: rest) = stripReturn line :: linesOf (next :: rest) := rfl
      -- A carriage return at the end of the line is no part of its length, but counted on its own.
      have shorter := size_stripReturn line
      have rest_added := ih free.2
      rw [count_newline_append unbroken, unfinished_append, returns_append unbroken, cut,
        List.take_succ_cons, List.map_cons, List.foldr_cons]
      omega

end Before

-----------------------------------------------------------------------------------------
-- Positions of the reader
-----------------------------------------------------------------------------------------

namespace Json.Position

theorem advance_zero (position : Position) (text : List Char)
    : position.advance text 0 = position := by
  cases text with
  | nil => rfl
  | cons c rest =>
      rw [advance, if_pos c.utf8Size_pos]
      rfl

theorem advance_past (c : Char) (rest : List Char) (position : Position) (bytes : Nat)
    : position.advance (c :: rest) (c.utf8Size + bytes) =
      (if c = '\n' then (⟨position.line + 1, 0⟩ : Position)
        else ⟨position.line, position.column + c.utf8Size⟩).advance rest bytes := by
  rw [advance, if_neg (by omega), Nat.add_sub_cancel_left]

theorem advance_newline (rest : List Char) (position : Position) (bytes : Nat)
    : position.advance ('\n' :: rest) (1 + bytes) =
      (⟨position.line + 1, 0⟩ : Position).advance rest bytes :=
  advance_past '\n' rest position bytes

/-- On one line only the column moves, by induction on the characters. -/
theorem advance_of_free {text : List Char} (free : '\n' ∉ text) (rest : List Char)
    (position : Position) {index : Nat} (near : index ≤ size text)
    : position.advance (text ++ rest) index = ⟨position.line, position.column + index⟩ := by
  induction text generalizing position index with
  | nil =>
      obtain rfl : index = 0 := Nat.le_zero.mp near
      exact advance_zero position rest
  | cons c text ih =>
      rw [List.mem_cons, not_or] at free
      have total : size (c :: text) = c.utf8Size + size text := rfl
      by_cases short : index < c.utf8Size
      · rw [List.cons_append, advance, if_pos short]
      · obtain ⟨behind, rfl⟩ := Nat.exists_eq_add_of_le (Nat.le_of_not_lt short)
        rw [List.cons_append, advance_past, if_neg (Ne.symm free.1), ih free.2 _ (by omega),
          Nat.add_assoc]

theorem advance_append (left right : List Char) (position : Position) (index : Nat)
    : position.advance (left ++ right) (size left + index) =
      (position.advance left (size left)).advance right index := by
  induction left generalizing position with
  | nil => rw [List.nil_append, size, List.foldr_nil, Nat.zero_add, advance]
  | cons c left ih =>
      have total : size (c :: left) = c.utf8Size + size left := rfl
      rw [List.cons_append, total, Nat.add_assoc, advance_past, advance_past, ih]

end Json.Position

namespace Before

variable {lines : List (List Char)} {index : Nat} {before : List UInt8}

/-- The reader counts the newlines and the bytes behind the last one, by induction on the lines. -/
theorem advance_eq (h : Before lines index before) (free : ∀ line ∈ lines, '\n' ∉ line)
    (first : Nat)
    : (⟨first, 0⟩ : Json.Position).advance (['\n'].intercalate lines) index =
      ⟨first + before.count newline, (unfinished before).length⟩ := by
  induction h generalizing first with
  | @inside line rest index near =>
      have unbroken := newline_not_mem_take (free line (by simp)) index
      obtain ⟨more, text⟩ : ∃ more, ['\n'].intercalate (line :: rest) = line ++ more := by
        cases rest with
        | nil => exact ⟨[], by simp⟩
        | cons next rest => exact ⟨_, by rw [List.intercalate_cons_cons, List.append_assoc]⟩
      rw [text, Json.Position.advance_of_free (free line (by simp)) more _ near,
        List.count_eq_zero_of_not_mem unbroken, unfinished_of_free unbroken, List.length_take,
        length_bytes, Nat.min_eq_left near, Nat.zero_add, Nat.add_zero]
  | @behind line next rest index before more ih =>
      rw [List.forall_mem_cons] at free
      have unbroken := newline_not_mem_bytes free.1
      have line_end := Json.Position.advance_of_free free.1 [] ⟨first, 0⟩ (Nat.le_refl (size line))
      rw [List.append_nil] at line_end
      rw [List.intercalate_cons_cons, List.append_assoc, Nat.add_assoc,
        Json.Position.advance_append, line_end, List.singleton_append,
        Json.Position.advance_newline, ih free.2, count_newline_append unbroken, unfinished_append]
      simp only [Json.Position.mk.injEq, and_true]
      omega

end Before

-----------------------------------------------------------------------------------------
-- Labels
-----------------------------------------------------------------------------------------

namespace Diagnostic

/-- The lines of a text, with the index at which its bytes are cut. -/
theorem before_take {content : List Char} {index : Nat} (inside : index ≤ size content)
    : Before (content.splitOn '\n') index ((bytes content).take index) := by
  have text : ['\n'].intercalate (content.splitOn '\n') = content := List.intercalate_splitOn '\n'
  rw [← text] at inside
  have taken := Before.of_take (List.splitOn_ne_nil '\n' content) inside
  rwa [text] at taken

theorem byteOffset_add_returns {content : List Char} {index : Nat} {before : List UInt8}
    (h : Before (content.splitOn '\n') index before) (inside : index ≤ size content)
    : byteOffset content (1 + before.count newline) ((unfinished before).length + 1)
        + returns before
      = index := by
  have added := h.offset_add_returns fun _ => not_mem_of_mem_splitOn
  rw [byteOffset, lines, Nat.add_sub_cancel_left, Nat.add_sub_cancel, Nat.min_eq_left (by omega),
    added]

/-- The label of a report for the line and column of a byte stands before that byte, by one for
every line end before it that is a carriage return and a newline; without any it stands at the byte.
The line and the column are those that the reader counts.
-/
theorem labels_ofFailure (content message : String) {index : Nat}
    (inside : index ≤ content.utf8ByteSize)
    : let before := content.toUTF8.data.toList.take index
      let line := 1 + before.count newline
      let column := (unfinished before).length + 1
      Json.Position.after content.toList index = ⟨line, column - 1⟩
        ∧ ∃ offset, (ofFailure content line column message).labels = [⟨"error here", offset, 1⟩]
            ∧ offset + returns before = index := by
  rw [← size_toList] at inside
  have cut := before_take inside
  rw [bytes_toList] at cut
  have counted := cut.advance_eq (fun _ => not_mem_of_mem_splitOn) 1
  rw [List.intercalate_splitOn] at counted
  exact ⟨counted, _, rfl, byteOffset_add_returns cut inside⟩

/-- A second byte of a letter, behind two line ends of which one has a carriage return. -/
theorem labels_within_letter
    : 6 ≤ "é\r\n\nü x".utf8ByteSize
      ∧ Json.Position.after "é\r\n\nü x".toList 6 = ⟨3, 1⟩
      ∧ (ofFailure "é\r\n\nü x" 3 2 "trailing characters").labels = [⟨"error here", 5, 1⟩] := by
  have inside : 6 ≤ "é\r\n\nü x".utf8ByteSize := by decide
  obtain ⟨counted, offset, labels, added⟩ :=
    labels_ofFailure "é\r\n\nü x" "trailing characters" inside
  have place : offset + 1 = 6 := added
  obtain rfl : offset = 5 := by omega
  exact ⟨inside, counted, labels⟩

/-- Behind a carriage return and a newline the label misses the byte of its place. -/
theorem label_behind_carriage_return
    : let content := "\x7b\r\n  oops\r\n\x7d"
      let before := content.toUTF8.data.toList.take 5
      5 < content.utf8ByteSize ∧ 1 + before.count newline = 2 ∧ (unfinished before).length + 1 = 3
        ∧ (ofFailure content 2 3 "expected value").labels = [⟨"error here", 4, 1⟩] := by
  exact ⟨by decide, by decide, by decide, by decide⟩

end Diagnostic

end Phrasebook
