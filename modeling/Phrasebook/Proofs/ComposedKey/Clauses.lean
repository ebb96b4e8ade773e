import Phrasebook.ComposedKey
import Phrasebook.Proofs.Text.Digits

/-! The notation of clauses, and where a key is cut. Reading a text as clauses succeeds exactly on
the written ones, and the base of a key ends before the first character after which the whole rest
is written clauses.
-/

namespace Phrasebook.ComposedKey

open Phrasebook.Text

-----------------------------------------------------------------------------------------
-- The notation of clauses, and reading it
-----------------------------------------------------------------------------------------

/-- A count in square brackets. -/
def countText (digits : List Char) : List Char :=
  '[' :: digits ++ [']']

/-- A body in braces. -/
def bodyText (body : List Char) : List Char :=
  '\x7b' :: body ++ ['\x7d']

/-- How clauses are written: a count in square brackets, then a body in braces, which is not empty
and may hold any characters, brackets and braces included. Either clause may be absent.
-/
inductive Clauses.Written : Clauses → List Char → Prop
  | nothing : Written ⟨none, none⟩ []
  | count {digits n} (numeral : Numeral digits n) : Written ⟨some n, none⟩ (countText digits)
  | body {body} (nonempty : body ≠ []) : Written ⟨none, some body⟩ (bodyText body)
  | both {digits n body} (numeral : Numeral digits n) (nonempty : body ≠ [])
    : Written ⟨some n, some body⟩ (countText digits ++ bodyText body)

/-- A count is read off a text exactly if the text starts with a count in square brackets. -/
theorem countClause?_eq_some_iff {text rest : List Char} {n : Int64}
    : countClause? text = some (n, rest) ↔
      ∃ digits, Numeral digits n ∧ text = countText digits ++ rest := by
  constructor
  · intro read
    unfold countClause? at read
    split at read
    · next after =>
        split at read
        · next found closed =>
            obtain ⟨rfl, rfl⟩ := Prod.mk.inj (Option.some.inj read)
            refine ⟨after.takeWhile isDigit, readDigits_eq_some_iff.mp found, ?_⟩
            have parts := List.takeWhile_append_dropWhile (p := isDigit) (l := after)
            rw [closed] at parts
            simp [countText, parts]
        · simp at read
    · simp at read
  · intro written
    obtain ⟨digits, numeral, rfl⟩ := written
    have closes : ∀ c ∈ (']' :: rest).head?, isDigit c = false :=
      fun _ first => Option.some.inj first ▸ by decide
    obtain ⟨run, behind⟩ := numeral.run_append closes
    simp [countText, countClause?, run, behind, readDigits_eq_some_iff.mpr numeral]

/-- A body is read from a text exactly if the text is that body in braces. -/
theorem bodyClause?_eq_some_iff {text body : List Char}
    : bodyClause? text = some body ↔ body ≠ [] ∧ text = bodyText body := by
  constructor
  · intro read
    unfold bodyClause? at read
    split at read
    · next after =>
        split at read
        · next shape =>
            obtain ⟨closed, nonempty⟩ := shape
            obtain ⟨inner, rfl⟩ := List.getLast?_eq_some_iff.mp closed
            rw [List.dropLast_concat] at nonempty read
            obtain rfl := Option.some.inj read
            exact ⟨nonempty, rfl⟩
        · simp at read
    · simp at read
  · intro written
    obtain ⟨nonempty, rfl⟩ := written
    simp [bodyText, bodyClause?, nonempty]

theorem bodyAfter_eq_some_iff {count : Option Int64} {text : List Char} {clauses : Clauses}
    : bodyAfter count text = some clauses ↔
      text = [] ∧ clauses = ⟨count, none⟩
      ∨ ∃ body, body ≠ [] ∧ text = bodyText body ∧ clauses = ⟨count, some body⟩ := by
  by_cases empty : text = []
  · subst empty
    rw [bodyAfter, if_pos rfl]
    constructor
    · intro read
      exact .inl ⟨rfl, (Option.some.inj read).symm⟩
    · intro shape
      rcases shape with ⟨-, rfl⟩ | ⟨body, -, text, -⟩
      · rfl
      · simp [bodyText] at text
  · rw [bodyAfter, if_neg empty, Option.map_eq_some_iff]
    constructor
    · intro found
      obtain ⟨body, read, rfl⟩ := found
      obtain ⟨nonempty, text⟩ := bodyClause?_eq_some_iff.mp read
      exact .inr ⟨body, nonempty, text, rfl⟩
    · intro shape
      rcases shape with ⟨text, -⟩ | ⟨body, nonempty, text, rfl⟩
      · contradiction
      · exact ⟨body, bodyClause?_eq_some_iff.mpr ⟨nonempty, text⟩, rfl⟩

/-- Exactly the written clauses are read, each as what it writes. Of the four ways of writing
clauses, the first character tells whether there is a count, and the rest is then determined.
-/
theorem clauses?_eq_some_iff {text : List Char} {clauses : Clauses}
    : clauses? text = some clauses ↔ clauses.Written text := by
  constructor
  · intro read
    unfold clauses? at read
    split at read
    · next n rest counted =>
        obtain ⟨digits, numeral, rfl⟩ := countClause?_eq_some_iff.mp counted
        rcases bodyAfter_eq_some_iff.mp read with ⟨rfl, rfl⟩ | ⟨body, nonempty, rfl, rfl⟩
        · rw [List.append_nil]
          exact .count numeral
        · exact .both numeral nonempty
    · rcases bodyAfter_eq_some_iff.mp read with ⟨rfl, rfl⟩ | ⟨body, nonempty, rfl, rfl⟩
      · exact .nothing
      · exact .body nonempty
  · intro written
    cases written with
    | nothing => rfl
    | count numeral =>
        have counted := countClause?_eq_some_iff.mpr ⟨_, numeral, (List.append_nil _).symm⟩
        rw [clauses?, counted]
        exact bodyAfter_eq_some_iff.mpr (.inl ⟨rfl, rfl⟩)
    | body nonempty =>
        exact bodyAfter_eq_some_iff.mpr (.inr ⟨_, nonempty, rfl, rfl⟩)
    | both numeral nonempty =>
        rw [clauses?, countClause?_eq_some_iff.mpr ⟨_, numeral, rfl⟩]
        exact bodyAfter_eq_some_iff.mpr (.inr ⟨_, nonempty, rfl, rfl⟩)

/-- Clauses that are not absent start with a character that opens a clause. -/
theorem Clauses.Written.opensClause {clauses : Clauses} {c : Char} {rest : List Char}
    (written : clauses.Written (c :: rest))
    : opensClause c = true := by
  generalize eq : c :: rest = text at written
  cases written with
  | nothing => simp at eq
  | count | both =>
      obtain rfl : c = '[' := (List.cons.inj eq).1
      decide
  | body =>
      obtain rfl : c = '\x7b' := (List.cons.inj eq).1
      decide

-----------------------------------------------------------------------------------------
-- Where a key is cut
-----------------------------------------------------------------------------------------

theorem split_of_written {text : List Char} {clauses : Clauses} (written : clauses.Written text)
    : split text = ([], clauses) := by
  have read := clauses?_eq_some_iff.mpr written
  cases text with
  | nil => rw [← Option.some.inj read]; rfl
  | cons c rest => simp [split, written.opensClause, read]

/-- A text that is not written clauses keeps its first character in the base. -/
theorem split_cons_of_not_written {c : Char} {rest : List Char}
    (other : ∀ clauses : Clauses, ¬ clauses.Written (c :: rest))
    : split (c :: rest) = (c :: (split rest).1, (split rest).2) := by
  have unread : clauses? (c :: rest) = none :=
    Option.eq_none_iff_forall_ne_some.mpr
      fun clauses read => other clauses (clauses?_eq_some_iff.mp read)
  simp [split, unread]

/-- Characters that open no clause stay in the base, by induction on them. -/
theorem split_append {base : List Char} (plain : ∀ c ∈ base, opensClause c = false)
    (rest : List Char)
    : split (base ++ rest) = (base ++ (split rest).1, (split rest).2) := by
  induction base with
  | nil => rfl
  | cons c base ih =>
      have later : ∀ d ∈ base, opensClause d = false :=
        fun d member => plain d (List.mem_cons_of_mem c member)
      rw [List.cons_append, split_cons_of_not_written, ih later]
      · rfl
      · intro clauses written
        have opens := written.opensClause
        rw [plain c (by simp)] at opens
        contradiction

/-- A key whose characters up to some place open no clause is cut at that place or later. -/
theorem parse_append {key : String} {base rest : List Char} (text : key.toList = base ++ rest)
    (nonempty : base ≠ []) (plain : ∀ c ∈ base, opensClause c = false)
    : parse key = ofParts (base ++ (split rest).1) (split rest).2 := by
  cases base with
  | nil => contradiction
  | cons c base =>
      have later : ∀ d ∈ base, opensClause d = false :=
        fun d member => plain d (List.mem_cons_of_mem c member)
      rw [parse, text, List.cons_append]
      simp only [split_append later]
      rfl

/-- A base that opens no clause and written clauses behind it are taken apart as they were put
together.
-/
theorem parse_of_written {key : String} {base suffix : List Char} {clauses : Clauses}
    (text : key.toList = base ++ suffix) (nonempty : base ≠ [])
    (plain : ∀ c ∈ base, opensClause c = false) (written : clauses.Written suffix)
    : parse key = ofParts base clauses := by
  rw [parse_append text nonempty plain, split_of_written written, List.append_nil]

end Phrasebook.ComposedKey
