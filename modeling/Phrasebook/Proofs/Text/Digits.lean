import Phrasebook.Proofs.Text.Parts
import Phrasebook.Text.Integer

/-! Reading a run of digits yields the number they write, and nothing else is read. Leading zeros
do not change the number; the runs that are too great for 64 bits write none.
-/

namespace Phrasebook.Text

/-- The digits write the integer n of 64 bits. There is at least one digit, and the first ones may
be zero.
-/
structure Numeral (digits : List Char) (n : Int64) : Prop where
  nonempty : digits ≠ []
  ascii : ∀ c ∈ digits, isDigit c
  value : n.toInt = digitsValue digits

theorem int64?_eq_some_iff {i : Int} {n : Int64} : int64? i = some n ↔ n.toInt = i := by
  constructor
  · intro read
    unfold int64? at read
    split at read
    · next range =>
        rw [← Option.some.inj read]
        exact Int64.toInt_ofInt_of_le range.1 (Int.lt_add_one_of_le range.2)
    · simp at read
  · intro value
    subst value
    rw [int64?, if_pos ⟨n.minValue_le_toInt, n.toInt_le⟩, Int64.ofInt_toInt]

/-- Exactly the numerals are read, each as the number it writes. -/
theorem readDigits_eq_some_iff {digits : List Char} {n : Int64}
    : readDigits digits = some n ↔ Numeral digits n := by
  constructor
  · intro read
    unfold readDigits at read
    split at read
    · next shape => exact ⟨shape.1, List.all_eq_true.mp shape.2, int64?_eq_some_iff.mp read⟩
    · simp at read
  · intro numeral
    rw [readDigits, if_pos ⟨numeral.nonempty, List.all_eq_true.mpr numeral.ascii⟩]
    exact int64?_eq_some_iff.mpr numeral.value

/-- A numeral in front of a text is the whole run of digits, if the text starts with no digit. -/
theorem Numeral.run_append {digits rest : List Char} {n : Int64} (numeral : Numeral digits n)
    (ends : ∀ c ∈ rest.head?, isDigit c = false)
    : (digits ++ rest).takeWhile isDigit = digits ∧ (digits ++ rest).dropWhile isDigit = rest :=
  takeWhile_dropWhile_eq_iff.mpr ⟨rfl, numeral.ascii, ends⟩

theorem isDigit_iff {c : Char} : isDigit c = true ↔ 48 ≤ c.toNat ∧ c.toNat ≤ 57 := by
  simp [isDigit, Char.le_def, UInt32.le_iff_toNat_le]

theorem isBlank_of_isDigit {c : Char} (digit : isDigit c = true) : isBlank c = false := by
  have bounds := isDigit_iff.mp digit
  simp only [isBlank]
  grind

theorem isDigit_of_isBlank {c : Char} (blank : isBlank c = true) : isDigit c = false := by
  cases digit : isDigit c with
  | false => rfl
  | true =>
      rw [isBlank_of_isDigit digit] at blank
      contradiction

theorem Numeral.solid {digits : List Char} {n : Int64} (numeral : Numeral digits n)
    (rest : List Char)
    : ∀ c ∈ (digits ++ rest).head?, isBlank c = false := by
  obtain ⟨c, digits, rfl⟩ := List.exists_cons_of_ne_nil numeral.nonempty
  simpa using isBlank_of_isDigit (numeral.ascii c (by simp))

theorem isDigit_of_mem_toDigits {m : Nat} {c : Char} (member : c ∈ Nat.toDigits 10 m)
    : isDigit c = true :=
  Nat.isDigit_of_mem_toDigits (by decide) (by decide) member

theorem digitsValue_eq (digits : List Char) : digitsValue digits = Nat.ofDigitChars 10 digits 0 :=
  Nat.ofDigitChars_eq_foldl.symm

/-- The decimal text of a number, after any zeros, has the value of the number. -/
theorem digitsValue_padded (zeros m : Nat)
    : digitsValue (List.replicate zeros '0' ++ Nat.toDigits 10 m) = m := by
  rw [digitsValue_eq, Nat.ofDigitChars_append, Nat.ofDigitChars_replicate_zero, Nat.mul_zero,
    Nat.ofDigitChars_ten_toDigits]

/-- A decimal text starts with one of its digits. -/
theorem exists_cons_toDigits (m : Nat)
    : ∃ c more, Nat.toDigits 10 m = c :: more ∧ isDigit c = true := by
  cases digits : Nat.toDigits 10 m with
  | nil => exact absurd digits Nat.toDigits_ne_nil
  | cons c more =>
      have first : c ∈ Nat.toDigits 10 m := digits ▸ List.mem_cons_self
      exact ⟨c, more, rfl, isDigit_of_mem_toDigits first⟩

/-- The decimal text of a positive number does not start with a zero, by induction on the number.
-/
theorem head?_toDigits_ne_zero {m : Nat} (positive : 0 < m)
    : (Nat.toDigits 10 m).head? ≠ some '0' := by
  induction m using Nat.strongRecOn with
  | ind m ih =>
      rw [Nat.toDigits_eq_if (by decide)]
      split
      · next small =>
          have digits : ∀ n < 10, 0 < n → Nat.digitChar n ≠ '0' := by decide
          simpa using digits m small positive
      · next large =>
          have first := ih (m / 10) (by omega) (by omega)
          rw [List.head?_append]
          cases head : (Nat.toDigits 10 (m / 10)).head? with
          | none => exact absurd (List.head?_eq_none_iff.mp head) Nat.toDigits_ne_nil
          | some c => simpa [head] using first

/-- The decimal text of a positive number is digits that start with no zero. -/
theorem exists_cons_toDigits_of_pos {m : Nat} (positive : 0 < m)
    : ∃ c rest, Nat.toDigits 10 m = c :: rest ∧ c ≠ '0' ∧ ∀ d ∈ c :: rest, isDigit d := by
  obtain ⟨c, rest, eq, -⟩ := exists_cons_toDigits m
  have first := head?_toDigits_ne_zero positive
  have ascii : ∀ d ∈ Nat.toDigits 10 m, isDigit d := fun _ => isDigit_of_mem_toDigits
  rw [eq] at first ascii
  exact ⟨c, rest, eq, by simpa using first, ascii⟩

/-- A count in decimal, after any zeros, is a numeral of that count. -/
theorem numeral_padded (zeros : Nat) {n : Int64} (nonneg : 0 ≤ n.toInt)
    : Numeral (List.replicate zeros '0' ++ writeInteger n.toInt) n := by
  obtain ⟨m, eq⟩ := Int.eq_ofNat_of_zero_le nonneg
  have written : writeInteger n.toInt = Nat.toDigits 10 m := by rw [eq]; rfl
  rw [written]
  refine ⟨?_, ?_, ?_⟩
  · simp [Nat.toDigits_ne_nil]
  · intro c member
    rcases List.mem_append.mp member with zero | digit
    · rw [List.eq_of_mem_replicate zero]
      decide
    · exact isDigit_of_mem_toDigits digit
  · rw [digitsValue_padded, eq]

end Phrasebook.Text
