import Mathlib.Tactic.SplitIfs
import Phrasebook.Json.Writer
import Phrasebook.Json.Numeral
import Phrasebook.Proofs.Text.Digits

/-! Strings and integers are read back as they were written. Every character is read from its own
escape, and an integer of 64 bits from its digits, up to a character that no number goes on with.
-/

namespace Phrasebook

open Phrasebook.Text

/-- The integers that are read as such: those of 64 bits, with a sign if they are negative. -/
inductive Number.Exact : Number → Prop where
  | integer {n : Int} (low : Int64.minValue.toInt ≤ n) (high : n < UInt64.size)
    : Exact (.integer n)

namespace Json

-----------------------------------------------------------------------------------------
-- Strings
-----------------------------------------------------------------------------------------

namespace Quoted

/-- The number of a control character is read back from its two digits. -/
theorem hexNumber?_control
    : ∀ n < 0x20, hexNumber? '0' '0' (hexDigit (n / 16)) (hexDigit (n % 16)) = some n := by
  decide

theorem escape_control {c : Char} (control : c.toNat < 0x20) (rest : List Char)
    : escape ('u' :: '0' :: '0' :: hexDigit (c.toNat / 16) :: hexDigit (c.toNat % 16) :: rest) =
      .ok (c, 5) := by
  have unit := hexNumber?_control c.toNat control
  have low : ¬(0xDC00 ≤ c.toNat ∧ c.toNat ≤ 0xDFFF) := by omega
  have high : ¬(0xD800 ≤ c.toNat ∧ c.toNat ≤ 0xDBFF) := by omega
  simp only [escape, unicodeEscape, hexUnit, unit]
  simp [bind, Except.bind, pure, Except.pure, low, high]

/-- A character is read from its escape, and the rest as before. -/
theorem readFrom_writeChar (c : Char) (rest : List Char)
    : readFrom 0 (writeChar c ++ rest) =
      (readFrom 0 rest).map fun (chars, rest) => (c :: chars, rest) := by
  unfold writeChar
  split_ifs with quote backslash _ _ _ _ _ control
  -- The first seven have a letter of their own.
  any_goals (subst c; rfl)
  · simp only [List.cons_append, List.nil_append]
    rw [readFrom, if_neg (by decide), if_pos rfl, escape_control control]
    rfl
  · rw [List.singleton_append, readFrom, if_neg quote, if_neg backslash, if_neg control]

/-- A written string is read back up to its closing quotation mark, by induction on the string. -/
theorem read_flatMap_writeChar (chars rest : List Char)
    : read (chars.flatMap writeChar ++ '"' :: rest) = .ok (chars, rest) := by
  rw [read]
  induction chars with
  | nil => rfl
  | cons c chars ih =>
      rw [List.flatMap_cons, List.append_assoc, readFrom_writeChar, ih]
      rfl

end Quoted

-----------------------------------------------------------------------------------------
-- Integers
-----------------------------------------------------------------------------------------

namespace Numeral

/-- Requires that no number goes on with the text. -/
def Stops : List Char → Prop
  | [] => True
  | c :: _ => isDigit c = false ∧ c ∉ ['.', 'e', 'E']

theorem Stops.startsWithDigit {rest : List Char} (stops : Stops rest)
    : startsWithDigit rest = false := by
  cases rest with
  | nil => rfl
  | cons c rest => exact stops.1

theorem Stops.run_eq {rest : List Char} (stops : Stops rest)
    : rest.takeWhile isDigit = [] ∧ rest.dropWhile isDigit = rest := by
  refine takeWhile_dropWhile_eq_iff.mpr ⟨rfl, List.forall_mem_nil _, ?_⟩
  cases rest with
  | nil => exact fun _ first => nomatch first
  | cons c rest => exact fun _ first => Option.some.inj first ▸ stops.1

/-- Digits that are read do not lower the value, by induction on the digits. -/
theorem le_ofDigitChars (digits : List Char) (value : Nat)
    : value ≤ Nat.ofDigitChars 10 digits value := by
  induction digits generalizing value with
  | nil => simp
  | cons c digits ih =>
      rw [Nat.ofDigitChars_cons]
      refine Nat.le_trans ?_ (ih _)
      omega

/-- All digits are gathered if they do not reach the limit, by induction on the digits. -/
theorem gather_append {digits : List Char} (ascii : ∀ c ∈ digits, isDigit c) {limit value : Nat}
    (small : Nat.ofDigitChars 10 digits value < limit) {rest : List Char} (stops : Stops rest)
    : gather limit value (digits ++ rest) = (Nat.ofDigitChars 10 digits value, rest) := by
  induction digits generalizing value with
  | nil =>
      cases rest with
      | nil => simp [gather]
      | cons c rest => simp [gather, stops.1]
  | cons c digits ih =>
      rw [Nat.ofDigitChars_cons] at small ⊢
      have next : 10 * value + digitValue c < limit :=
        Nat.lt_of_le_of_lt (le_ofDigitChars digits _) small
      have digit : isDigit c := ascii c (by simp)
      rw [List.cons_append, gather, if_pos ⟨digit, next⟩]
      exact ih (fun c member => ascii c (List.mem_cons_of_mem _ member)) small

theorem afterDigits_of_stops (negative : Bool) (significand : Nat) {rest : List Char}
    (stops : Stops rest)
    : afterDigits negative significand 0 rest = .ok (integerValue negative significand, rest) := by
  cases rest with
  | nil => rfl
  | cons c rest =>
      obtain ⟨-, others⟩ := stops
      unfold afterDigits
      split
      · next eq => exact absurd (by simp [(List.cons.inj eq).1]) others
      · next eq => exact absurd (by simp [(List.cons.inj eq).1]) others
      · next eq => exact absurd (by simp [(List.cons.inj eq).1]) others
      · rfl

theorem magnitude_toDigits (negative : Bool) {m : Nat} (small : m < UInt64.size)
    {rest : List Char} (stops : Stops rest)
    : magnitude negative (Nat.toDigits 10 m ++ rest) = .ok (integerValue negative m, rest) := by
  rcases Nat.eq_zero_or_pos m with rfl | positive
  · rw [Nat.toDigits_zero, List.singleton_append, magnitude, stops.startsWithDigit]
    exact afterDigits_of_stops negative 0 stops
  · obtain ⟨c, more, digits, first, ascii⟩ := exists_cons_toDigits_of_pos positive
    have value : Nat.ofDigitChars 10 (c :: more) 0 = m := digits ▸ Nat.ofDigitChars_ten_toDigits
    have gathered : gather UInt64.size 0 (c :: (more ++ rest)) = (m, rest) := by
      rw [← List.cons_append, gather_append ascii (value ▸ small) stops, value]
    have digit : startsWithDigit (c :: (more ++ rest)) = true := ascii c (by simp)
    rw [digits, List.cons_append, magnitude]
    · rw [if_pos digit, gathered]
      simpa [stops.run_eq] using afterDigits_of_stops negative m stops
    · intro rest' eq
      exact first (List.cons.inj eq).1

theorem exists_cons_writeInteger (n : Int)
    : ∃ c more, writeInteger n = c :: more ∧ (c = '-' ∨ isDigit c = true) := by
  cases n with
  | ofNat m =>
      obtain ⟨c, more, eq, digit⟩ := exists_cons_toDigits m
      exact ⟨c, more, eq, .inr digit⟩
  | negSucc m => exact ⟨'-', _, rfl, .inl rfl⟩

/-- An integer of 64 bits is read back from its decimal text. -/
theorem read_writeInteger {n : Int} (exact : (Number.integer n).Exact) {rest : List Char}
    (stops : Stops rest)
    : read (writeInteger n ++ rest) = .ok (.integer n, rest) := by
  obtain ⟨low, high⟩ := exact
  cases n with
  | ofNat m =>
      rw [writeInteger, read, magnitude_toDigits false (Int.ofNat_lt.mp high) stops]
      · rfl
      · intro others eq
        obtain ⟨c, more, first, digit⟩ := exists_cons_toDigits m
        rw [first] at eq
        obtain rfl := (List.cons.inj eq).1
        exact absurd digit (by decide)
  | negSucc m =>
      have bound : Int64.minValue.toInt = -9223372036854775808 := rfl
      have size : UInt64.size = 18446744073709551616 := rfl
      have signed : m + 1 ≠ 0 ∧ Int64.minValue.toInt ≤ -(m + 1 : Nat) := by omega
      rw [writeInteger, List.cons_append, read, magnitude_toDigits true (by omega) stops,
        integerValue, if_neg (by decide), if_pos signed]
      rfl

end Numeral

end Json

end Phrasebook
