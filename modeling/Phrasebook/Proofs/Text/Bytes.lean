import Mathlib.Data.List.DropRight
import Phrasebook.Proofs.Text.Parts

/-! Texts as bytes in UTF-8, and the lines among the bytes. A newline and a carriage return are one
byte each, and neither occurs among the bytes of any other character.
-/

namespace Phrasebook.Text

/-- The bytes of the text in UTF-8. -/
def bytes (text : List Char) : List UInt8 :=
  text.flatMap String.utf8EncodeChar

/-- The byte that ends a line. -/
def newline : UInt8 :=
  10

/-- The byte that may stand before a newline. -/
def carriageReturn : UInt8 :=
  13

/-- The bytes after the last newline. -/
def unfinished (before : List UInt8) : List UInt8 :=
  before.rtakeWhile (· ≠ newline)

/-- Counts the newlines that follow a carriage return. -/
def returns : List UInt8 → Nat
  | [] => 0
  | byte :: rest =>
      (if byte = carriageReturn ∧ rest.head? = some newline then 1 else 0) + returns rest

-----------------------------------------------------------------------------------------
-- The bytes of characters
-----------------------------------------------------------------------------------------

theorem bytes_append (left right : List Char) : bytes (left ++ right) = bytes left ++ bytes right :=
  List.flatMap_append

theorem bytes_cons (c : Char) (rest : List Char)
    : bytes (c :: rest) = String.utf8EncodeChar c ++ bytes rest :=
  List.flatMap_cons

theorem length_bytes (text : List Char) : (bytes text).length = size text := by
  induction text with
  | nil => rfl
  | cons c rest ih =>
      rw [bytes_cons, List.length_append, ih, String.length_utf8EncodeChar]
      rfl

theorem size_append (left right : List Char) : size (left ++ right) = size left + size right := by
  rw [← length_bytes, bytes_append, List.length_append, length_bytes, length_bytes]

/-- These are the bytes that strings are made of. -/
theorem bytes_toList (s : String) : bytes s.toList = s.toUTF8.data.toList := by
  have encoded : s.toUTF8 = s.toList.utf8Encode := String.utf8Encode_toList.symm
  rw [encoded, List.utf8Encode, List.toList_data_toByteArray]
  rfl

theorem size_toList (s : String) : size s.toList = s.utf8ByteSize := by
  rw [← length_bytes, bytes_toList]
  rfl

/-- A byte below 128 is the only one of its character, and no other character has one. -/
theorem mem_utf8EncodeChar_iff {byte : UInt8} (low : byte.toNat < 128) {c : Char}
    : byte ∈ String.utf8EncodeChar c ↔ c.toNat = byte.toNat := by
  have code : c.val.toNat = c.toNat := rfl
  fun_cases String.utf8EncodeChar c <;>
    simp only [List.mem_cons, List.not_mem_nil, or_false, ← UInt8.toNat_inj, UInt8.toNat_ofNat'] <;>
    omega

theorem newline_mem_utf8EncodeChar_iff {c : Char}
    : newline ∈ String.utf8EncodeChar c ↔ c = '\n' := by
  rw [mem_utf8EncodeChar_iff (by decide), ← Char.toNat_inj]
  rfl

theorem newline_not_mem_bytes {text : List Char} (free : '\n' ∉ text) : newline ∉ bytes text := by
  intro member
  obtain ⟨c, within, byte⟩ := List.mem_flatMap.mp member
  exact free (newline_mem_utf8EncodeChar_iff.mp byte ▸ within)

theorem newline_not_mem_take {text : List Char} (free : '\n' ∉ text) (index : Nat)
    : newline ∉ (bytes text).take index :=
  fun member => newline_not_mem_bytes free (List.mem_of_mem_take member)

theorem getLast?_utf8EncodeChar_eq_carriageReturn_iff {c : Char}
    : (String.utf8EncodeChar c).getLast? = some carriageReturn ↔ c = '\r' := by
  constructor
  · intro last
    have code := (mem_utf8EncodeChar_iff (by decide)).mp (List.mem_of_getLast? last)
    rw [← Char.toNat_inj, code]
    rfl
  · rintro rfl
    decide

theorem getLast?_bytes_eq_carriageReturn_iff {text : List Char}
    : (bytes text).getLast? = some carriageReturn ↔ text.getLast? = some '\r' := by
  rcases List.eq_nil_or_concat' text with rfl | ⟨start, c, rfl⟩
  · simp [bytes]
  · have encoded : bytes [c] = String.utf8EncodeChar c := List.flatMap_singleton ..
    rw [bytes_append, encoded, List.getLast?_append_of_ne_nil _ String.utf8EncodeChar_ne_nil,
      getLast?_utf8EncodeChar_eq_carriageReturn_iff, List.getLast?_concat, Option.some_inj]

/-- Without the carriage return at its end a line is one byte shorter. -/
theorem size_stripReturn (line : List Char)
    : size (stripReturn line) + (if (bytes line).getLast? = some carriageReturn then 1 else 0) =
      size line := by
  simp only [stripReturn, getLast?_bytes_eq_carriageReturn_iff]
  split
  · next last =>
      obtain ⟨start, rfl⟩ := List.getLast?_eq_some_iff.mp last
      rw [List.dropLast_concat, size_append]
      rfl
  · rfl

-----------------------------------------------------------------------------------------
-- Lines of bytes
-----------------------------------------------------------------------------------------

theorem count_newline_append {line : List UInt8} (free : newline ∉ line) (before : List UInt8)
    : (line ++ newline :: before).count newline = before.count newline + 1 := by
  rw [List.count_append, List.count_eq_zero_of_not_mem free, List.count_cons_self, Nat.zero_add]

theorem unfinished_of_free {before : List UInt8} (free : newline ∉ before)
    : unfinished before = before := by
  refine List.rtakeWhile_eq_self_iff.mpr ?_
  intro byte member
  simpa using fun same : byte = newline => free (same ▸ member)

/-- What comes before a newline is finished. -/
theorem unfinished_append (line before : List UInt8)
    : unfinished (line ++ newline :: before) = unfinished before := by
  have stops : (before.reverse ++ newline :: line.reverse).takeWhile (· ≠ newline) =
      before.reverse.takeWhile (· ≠ newline) := by
    rw [List.takeWhile_append]
    split
    · next all =>
        rw [List.takeWhile_cons_of_neg (by simp), List.append_nil,
          (List.takeWhile_prefix _).eq_of_length all]
    · rfl
  rw [unfinished, unfinished, List.rtakeWhile, List.rtakeWhile, List.reverse_append,
    List.reverse_cons, List.append_assoc, List.singleton_append, stops]

theorem returns_of_free {before : List UInt8} (free : newline ∉ before) : returns before = 0 := by
  induction before with
  | nil => rfl
  | cons byte rest ih =>
      rw [List.mem_cons, not_or] at free
      have next : rest.head? ≠ some newline := fun head => free.2 (List.mem_of_head? head)
      rw [returns, if_neg fun both => next both.2, ih free.2]

/-- A newline follows a carriage return if its line ends with one, by induction on the line. -/
theorem returns_append {line : List UInt8} (free : newline ∉ line) (before : List UInt8)
    : returns (line ++ newline :: before) =
      (if line.getLast? = some carriageReturn then 1 else 0) + returns before := by
  induction line with
  | nil =>
      rw [List.nil_append, returns, if_neg fun both => absurd both.1 (by decide)]
      rfl
  | cons byte rest ih =>
      rw [List.mem_cons, not_or] at free
      rw [List.cons_append, returns, ih free.2]
      cases rest with
      | nil => simp
      | cons next rest =>
          have apart : next ≠ newline := fun same => free.2 (same ▸ List.mem_cons_self)
          simp [apart, List.getLast?_cons_cons]

end Phrasebook.Text
