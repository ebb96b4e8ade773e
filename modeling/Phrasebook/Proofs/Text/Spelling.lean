import Phrasebook.Proofs.Text.Digits

/-! The spellings of an integer of 64 bits: a sign or none, any number of zeros, and the digits of
the integer. It is written in its shortest spelling, which is what any other one is without a plus
sign, the zeros in front and the sign of zero.
-/

namespace Phrasebook.Text

/-- The text spells the integer n of 64 bits. Zero may have either sign. -/
inductive Spells : List Char → Int64 → Prop
  | unsigned {digits n} (numeral : Numeral digits n) : Spells digits n
  | plus {digits n} (numeral : Numeral digits n) : Spells ('+' :: digits) n
  | minus {digits n} (nonempty : digits ≠ []) (ascii : ∀ c ∈ digits, isDigit c)
    (value : n.toInt = -(digitsValue digits : Int))
    : Spells ('-' :: digits) n

/-- The text spells an integer without a plus sign, zeros in front of other digits or a sign before
zero.
-/
inductive Shortest : List Char → Prop
  | zero : Shortest ['0']
  | positive {c rest} (first : c ≠ '0') (ascii : ∀ d ∈ c :: rest, isDigit d)
    : Shortest (c :: rest)
  | negative {c rest} (first : c ≠ '0') (ascii : ∀ d ∈ c :: rest, isDigit d)
    : Shortest ('-' :: c :: rest)

/-- The digits without zeros in front; if there are no others, one zero is left. -/
def withoutZeros (digits : List Char) : List Char :=
  match digits.dropWhile (· = '0') with
  | [] => ['0']
  | c :: rest => c :: rest

/-- The spelling without a plus sign, zeros in front and the sign of zero. -/
def shortened : List Char → List Char
  | '-' :: digits =>
      if withoutZeros digits = ['0'] then ['0'] else '-' :: withoutZeros digits
  | '+' :: digits => withoutZeros digits
  | digits => withoutZeros digits

-----------------------------------------------------------------------------------------
-- Reading spellings
-----------------------------------------------------------------------------------------

theorem not_sign_of_isDigit {c : Char} (digit : isDigit c = true) : c ≠ '-' ∧ c ≠ '+' := by
  constructor <;> rintro rfl <;> exact absurd digit (by decide)

/-- Exactly the spellings of an integer are read as it. -/
theorem readInteger_eq_some_iff {text : List Char} {n : Int64}
    : readInteger text = some n ↔ Spells text n := by
  constructor
  · intro read
    unfold readInteger at read
    split at read
    · split at read
      · next shape =>
          exact .minus shape.1 (List.all_eq_true.mp shape.2) (int64?_eq_some_iff.mp read)
      · simp at read
    · exact .plus (readDigits_eq_some_iff.mp read)
    · exact .unsigned (readDigits_eq_some_iff.mp read)
  · intro spells
    cases spells with
    | plus numeral => exact readDigits_eq_some_iff.mpr numeral
    | minus nonempty ascii value =>
        rw [readInteger, if_pos ⟨nonempty, List.all_eq_true.mpr ascii⟩]
        exact int64?_eq_some_iff.mpr value
    | unsigned numeral =>
        obtain ⟨c, digits, rfl⟩ := List.exists_cons_of_ne_nil numeral.nonempty
        obtain ⟨minus, plus⟩ := not_sign_of_isDigit (numeral.ascii c (by simp))
        unfold readInteger
        split
        · next eq => exact absurd (List.cons.inj eq).1 minus
        · next eq => exact absurd (List.cons.inj eq).1 plus
        · exact readDigits_eq_some_iff.mpr numeral

-----------------------------------------------------------------------------------------
-- Writing what was read
-----------------------------------------------------------------------------------------

theorem toDigits_digitValue {c : Char} (digit : isDigit c = true)
    : digitValue c < 10 ∧ Nat.toDigits 10 (digitValue c) = [c] := by
  have bounds := isDigit_iff.mp digit
  have small : digitValue c < 10 := by
    simp only [digitValue]
    grind
  refine ⟨small, ?_⟩
  rw [Nat.toDigits_of_lt_base small, List.singleton_inj, ← Char.toNat_inj,
    Nat.toNat_digitChar_of_lt_ten small]
  simp only [digitValue]
  grind

/-- Digits behind the decimal text of a positive number are its further digits, by induction on
them.
-/
theorem toDigits_append_digits {digits : List Char} (ascii : ∀ c ∈ digits, isDigit c)
    {value : Nat} (positive : 0 < value)
    : Nat.toDigits 10 value ++ digits = Nat.toDigits 10 (Nat.ofDigitChars 10 digits value) := by
  induction digits generalizing value with
  | nil => simp
  | cons c digits ih =>
      obtain ⟨digit, later⟩ := List.forall_mem_cons.mp ascii
      obtain ⟨small, shown⟩ := toDigits_digitValue digit
      have next : 0 < 10 * value + digitValue c := by omega
      calc
        Nat.toDigits 10 value ++ c :: digits
            = (Nat.toDigits 10 value ++ Nat.toDigits 10 (digitValue c)) ++ digits := by
          rw [shown, List.append_assoc, List.singleton_append]
        _ = Nat.toDigits 10 (10 * value + digitValue c) ++ digits := by
          rw [Nat.toDigits_append_toDigits (by decide) positive small]
        _ = Nat.toDigits 10 (Nat.ofDigitChars 10 (c :: digits) value) := ih later next

/-- Digits that start with no zero are the decimal text of their value. -/
theorem toDigits_digitsValue {c : Char} {rest : List Char} (first : c ≠ '0')
    (ascii : ∀ d ∈ c :: rest, isDigit d)
    : Nat.toDigits 10 (digitsValue (c :: rest)) = c :: rest := by
  obtain ⟨digit, later⟩ := List.forall_mem_cons.mp ascii
  have bounds := isDigit_iff.mp digit
  have positive : 0 < digitValue c := by
    have apart : c.toNat ≠ '0'.toNat := fun same => first (Char.toNat_inj.mp same)
    simp only [digitValue]
    grind
  have value : digitsValue (c :: rest) = Nat.ofDigitChars 10 rest (digitValue c) := by
    rw [digitsValue_eq, Nat.ofDigitChars_cons, Nat.mul_zero, Nat.zero_add, digitValue]
  rw [value, ← toDigits_append_digits later positive, (toDigits_digitValue digit).2,
    List.singleton_append]

theorem digitsValue_dropWhile (digits : List Char)
    : digitsValue (digits.dropWhile (· = '0')) = digitsValue digits := by
  induction digits with
  | nil => rfl
  | cons c digits ih =>
      by_cases zero : c = '0'
      · rw [List.dropWhile_cons_of_pos (by simpa using zero), ih, zero]
        rfl
      · rw [List.dropWhile_cons_of_neg (by simpa using zero)]

/-- The decimal text of the value of digits is what they are without zeros in front. -/
theorem toDigits_digitsValue_eq {digits : List Char} (ascii : ∀ c ∈ digits, isDigit c)
    : Nat.toDigits 10 (digitsValue digits) = withoutZeros digits := by
  have kept : ∀ c ∈ digits.dropWhile (· = '0'), isDigit c :=
    fun c member => ascii c ((List.dropWhile_sublist _).subset member)
  rw [← digitsValue_dropWhile, withoutZeros]
  split
  · next none => rw [none]; rfl
  · next c rest eq =>
      have first := List.head?_dropWhile_not (· = '0') digits
      rw [eq] at first kept ⊢
      exact toDigits_digitsValue (by simpa using first) kept

theorem shortened_of_digits {digits : List Char} (ascii : ∀ c ∈ digits, isDigit c)
    : shortened digits = withoutZeros digits := by
  unfold shortened
  split
  · exact absurd rfl (not_sign_of_isDigit (ascii '-' (by simp))).1
  · exact absurd rfl (not_sign_of_isDigit (ascii '+' (by simp))).2
  · rfl

/-- An integer is written as any of its spellings is when shortened. -/
theorem Spells.writeInteger_eq {text : List Char} {n : Int64} (spells : Spells text n)
    : writeInteger n.toInt = shortened text := by
  cases spells with
  | unsigned numeral =>
      rw [shortened_of_digits numeral.ascii, numeral.value]
      exact toDigits_digitsValue_eq numeral.ascii
  | plus numeral =>
      rw [numeral.value]
      exact toDigits_digitsValue_eq numeral.ascii
  | @minus digits _ _ ascii value =>
      rw [value, shortened, ← toDigits_digitsValue_eq ascii]
      cases digitsValue digits with
      | zero => rfl
      | succ m =>
          obtain ⟨c, rest, eq, first, -⟩ := exists_cons_toDigits_of_pos (Nat.succ_pos m)
          have signed : ¬(Nat.toDigits 10 (m + 1) = ['0']) :=
            fun zero => first (List.cons.inj (eq.symm.trans zero)).1
          rw [if_neg signed]
          rfl

-----------------------------------------------------------------------------------------
-- The shortest spelling
-----------------------------------------------------------------------------------------

theorem shortest_writeInteger (n : Int) : Shortest (writeInteger n) := by
  match n with
  | .ofNat 0 => exact .zero
  | .ofNat (m + 1) =>
      obtain ⟨c, rest, eq, first, ascii⟩ := exists_cons_toDigits_of_pos (Nat.succ_pos m)
      rw [writeInteger, eq]
      exact .positive first ascii
  | .negSucc m =>
      obtain ⟨c, rest, eq, first, ascii⟩ := exists_cons_toDigits_of_pos (Nat.succ_pos m)
      rw [writeInteger, eq]
      exact .negative first ascii

theorem withoutZeros_cons {c : Char} (first : c ≠ '0') (rest : List Char)
    : withoutZeros (c :: rest) = c :: rest := by
  rw [withoutZeros, List.dropWhile_cons_of_neg (by simpa using first)]

theorem Shortest.shortened_eq {text : List Char} (h : Shortest text) : shortened text = text := by
  cases h with
  | zero => rfl
  | positive first ascii => rw [shortened_of_digits ascii, withoutZeros_cons first]
  | @negative c rest first ascii =>
      have signed : ¬(c :: rest = ['0']) := fun zero => first (List.cons.inj zero).1
      rw [shortened, withoutZeros_cons first, if_neg signed]

/-- A spelling is kept when it is shortened exactly if it is the shortest one. -/
theorem Spells.shortened_eq_self_iff {text : List Char} {n : Int64} (spells : Spells text n)
    : shortened text = text ↔ Shortest text := by
  constructor
  · intro kept
    have written := shortest_writeInteger n.toInt
    rwa [spells.writeInteger_eq, kept] at written
  · exact Shortest.shortened_eq

end Phrasebook.Text
