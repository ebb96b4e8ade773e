import Phrasebook.Proofs.ComposedKey.Clauses

/-! Where a key is cut, among all places. Only a character that opens a clause and the end of a key
are tried as the end of the base, but trying every place would find the same one: no other place is
followed by written clauses up to the end of the key.
-/

namespace Phrasebook.ComposedKey

/-- The base is a start of the key that is not empty and is followed by written clauses up to the
end of the key, and no shorter one is.
-/
structure FirstBase (key base suffix : List Char) (clauses : Clauses) : Prop where
  text : key = base ++ suffix
  nonempty : base ≠ []
  written : clauses.Written suffix
  first
    : ∀ shorter later,
        key = shorter ++ later
        → shorter ≠ []
        → shorter.length < base.length
        → ∀ others : Clauses, ¬ others.Written later

/-- What is found by trying every start of the key that is not empty, from the shortest to the whole
key, as its base. The empty key has no such start.
-/
inductive FoundByTrial (key : String) : ComposedKey → Prop
  | empty (empty : key = "") : FoundByTrial key ⟨"", none, none⟩
  | base {base suffix clauses} (first : FirstBase key.toList base suffix clauses)
    : FoundByTrial key ⟨String.ofList base, clauses.count, clauses.body.map pairs⟩

theorem Clauses.Written.unique {clauses others : Clauses} {text : List Char}
    (h : clauses.Written text) (h' : others.Written text)
    : others = clauses :=
  Option.some.inj ((clauses?_eq_some_iff.mpr h').symm.trans (clauses?_eq_some_iff.mpr h))

/-- A key has one first base only: of two, neither is shorter. -/
theorem FirstBase.unique {key base suffix base' suffix' : List Char} {clauses clauses' : Clauses}
    (h : FirstBase key base suffix clauses) (h' : FirstBase key base' suffix' clauses')
    : base' = base ∧ clauses' = clauses := by
  have length : base'.length = base.length := by
    rcases Nat.lt_trichotomy base'.length base.length with before | same | behind
    · exact absurd h'.written (h.first base' suffix' h'.text h'.nonempty before clauses')
    · exact same
    · exact absurd h.written (h'.first base suffix h.text h.nonempty behind clauses)
  obtain ⟨rfl, rfl⟩ := List.append_inj (h'.text.symm.trans h.text) length
  exact ⟨rfl, h.written.unique h'.written⟩

/-- Cutting a text leaves written clauses, and no shorter start is followed by any, by induction on
the text.
-/
theorem exists_split_written (text : List Char)
    : ∃ suffix,
        text = (split text).1 ++ suffix
        ∧ (split text).2.Written suffix
        ∧ ∀ shorter later,
            text = shorter ++ later
            → shorter.length < (split text).1.length
            → ∀ others : Clauses, ¬ others.Written later := by
  induction text with
  | nil => exact ⟨[], rfl, .nothing, fun _ _ _ shorter => absurd shorter (Nat.not_lt_zero _)⟩
  | cons c rest ih =>
      by_cases whole : ∃ clauses : Clauses, clauses.Written (c :: rest)
      · obtain ⟨clauses, written⟩ := whole
        rw [split_of_written written]
        exact ⟨c :: rest, rfl, written, fun _ _ _ shorter => absurd shorter (Nat.not_lt_zero _)⟩
      · have unwritten : ∀ clauses : Clauses, ¬ clauses.Written (c :: rest) :=
          fun clauses written => whole ⟨clauses, written⟩
        obtain ⟨suffix, text, written, first⟩ := ih
        rw [split_cons_of_not_written unwritten]
        refine ⟨suffix, congrArg (c :: ·) text, written, ?_⟩
        intro shorter later eq length
        cases shorter with
        | nil =>
            obtain rfl : later = c :: rest := eq.symm
            exact unwritten
        | cons d shorter =>
            exact first shorter later (List.cons.inj eq).2 (Nat.lt_of_succ_lt_succ length)

/-- A key that is not empty is cut behind its first base. -/
theorem exists_firstBase (c : Char) (rest : List Char)
    : ∃ suffix, FirstBase (c :: rest) (c :: (split rest).1) suffix (split rest).2 := by
  obtain ⟨suffix, text, written, first⟩ := exists_split_written rest
  refine ⟨suffix, congrArg (c :: ·) text, by simp, written, ?_⟩
  intro shorter later eq nonempty length
  obtain ⟨d, shorter, rfl⟩ := List.exists_cons_of_ne_nil nonempty
  exact first shorter later (List.cons.inj eq).2 (Nat.lt_of_succ_lt_succ length)

theorem foundByTrial_parse (key : String) : FoundByTrial key (parse key) := by
  unfold parse
  split
  · next text => exact .empty (String.toList_eq_nil_iff.mp text)
  · next c rest text =>
      obtain ⟨suffix, first⟩ := exists_firstBase c rest
      rw [← text] at first
      exact .base first

theorem FoundByTrial.unique {key : String} {parsed other : ComposedKey}
    (h : FoundByTrial key parsed) (h' : FoundByTrial key other)
    : other = parsed := by
  have blank {base suffix clauses} (empty : key = "")
      : ¬FirstBase key.toList base suffix clauses := by
    intro first
    rw [empty] at first
    exact first.nonempty (List.append_eq_nil_iff.mp first.text.symm).1
  cases h with
  | empty empty =>
      cases h' with
      | empty => rfl
      | base first => exact absurd first (blank empty)
  | base first =>
      cases h' with
      | empty empty => exact absurd first (blank empty)
      | base first' =>
          obtain ⟨rfl, rfl⟩ := first.unique first'
          rfl

/-- Every key is taken apart into what trying every base finds, and into nothing else. -/
theorem parse_eq_iff_foundByTrial {key : String} {parsed : ComposedKey}
    : parse key = parsed ↔ FoundByTrial key parsed := by
  constructor
  · rintro rfl
    exact foundByTrial_parse key
  · intro found
    exact found.unique (foundByTrial_parse key)

/-- Behind the first count stands more than a body, and the second number is too great for a count,
so the base ends before the third.
-/
example
    : let key := parse "a[1][9223372036854775808][2]\x7bn:]\x7d"
      key.base = "a[1][9223372036854775808]" ∧ key.count = some 2 := by
  decide

end Phrasebook.ComposedKey
