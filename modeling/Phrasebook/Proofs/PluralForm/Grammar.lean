import Phrasebook.PluralForm
import Phrasebook.Proofs.Text.Digits
import Phrasebook.Proofs.Text.Parts

/-! The notation of plural forms. A tag is read off a form exactly if the form starts with a number
in braces or a range in square brackets, as they are written here; every other form is kept as it
is.
-/

namespace Phrasebook.PluralForm

open Phrasebook.Text

-----------------------------------------------------------------------------------------
-- The notation of tags
-----------------------------------------------------------------------------------------

/-- One of the signs, with any white space around it. -/
inductive Padded (signs : List Char) : List Char → Prop
  | mk {before sign after} (blankBefore : ∀ c ∈ before, isBlank c) (known : sign ∈ signs)
    (blankAfter : ∀ c ∈ after, isBlank c)
    : Padded signs (before ++ sign :: after)

/-- How the upper bound of a range is written: as a number, or as an asterisk if there is none. -/
inductive UpperBound : Option Int64 → List Char → Prop
  | unbounded : UpperBound none ['*']
  | number {digits n} (numeral : Numeral digits n) : UpperBound (some n) digits

/-- What stands between a number in braces and the text: one character of white space, which may be
left out if the text does not start with any.
-/
inductive Gap (text : List Char) : List Char → Prop
  | blank {c} (blank : isBlank c) : Gap text [c]
  | nothing (solid : ∀ c ∈ text.head?, isBlank c = false) : Gap text []

/-- How a form with a tag is written. A number stands in braces behind any white space, and a range
in square brackets with any white space around every part, so none is left before the text.
-/
inductive Tagged (text : List Char) : Tag → List Char → Prop
  | exact {before digits n gap} (blankBefore : ∀ c ∈ before, isBlank c)
    (numeral : Numeral digits n) (skipped : Gap text gap)
    : Tagged text (.exact n) (before ++ '\x7b' :: (digits ++ '\x7d' :: (gap ++ text)))
  | range {opening digits first separator upper last closing} (opens : Padded ['['] opening)
    (numeral : Numeral digits first) (separates : Padded ['-', ','] separator)
    (bounds : UpperBound last upper) (closes : Padded [']'] closing)
    (solid : ∀ c ∈ text.head?, isBlank c = false)
    : Tagged text (.range first last)
        (opening ++ (digits ++ (separator ++ (upper ++ (closing ++ text)))))

-----------------------------------------------------------------------------------------
-- Reading the parts
-----------------------------------------------------------------------------------------

variable {text rest : List Char}

theorem number?_eq_some_iff {n : Int64}
    : number? text = some (n, rest) ↔
      ∃ digits,
        Numeral digits n ∧ text = digits ++ rest ∧ ∀ c ∈ rest.head?, isDigit c = false := by
  rw [number?, Option.map_eq_some_iff]
  constructor
  · rintro ⟨m, read, eq⟩
    obtain ⟨rfl, behind⟩ := Prod.mk.inj eq
    obtain ⟨parts, -, ends⟩ := takeWhile_dropWhile_eq_iff.mp ⟨rfl, behind⟩
    exact ⟨_, readDigits_eq_some_iff.mp read, parts, ends⟩
  · rintro ⟨digits, numeral, rfl, ends⟩
    obtain ⟨run, behind⟩ := numeral.run_append ends
    exact ⟨n, by rw [run, readDigits_eq_some_iff.mpr numeral], by rw [behind]⟩

/-- The signs of a range. -/
def rangeSigns : List Char :=
  ['[', '-', ',', ']']

theorem apart_of_mem_rangeSigns {sign : Char} (known : sign ∈ rangeSigns)
    : isBlank sign = false ∧ isDigit sign = false := by
  simp only [rangeSigns, List.mem_cons, List.not_mem_nil, or_false] at known
  rcases known with rfl | rfl | rfl | rfl <;> decide

/-- A sign is found behind white space, and the white space after it skipped, exactly if the text
starts with the padded sign.
-/
theorem exists_padded_iff {signs : List Char} (within : signs ⊆ rangeSigns)
    : (∃ sign behind, sign ∈ signs ∧ trimStart text = sign :: behind ∧ trimStart behind = rest) ↔
      ∃ padded,
        Padded signs padded ∧ text = padded ++ rest ∧ ∀ c ∈ rest.head?, isBlank c = false := by
  constructor
  · rintro ⟨sign, behind, known, found, trimmed⟩
    obtain ⟨before, blankBefore, rfl, -⟩ := trimStart_eq_iff.mp found
    obtain ⟨after, blankAfter, rfl, start⟩ := trimStart_eq_iff.mp trimmed
    exact ⟨_, ⟨blankBefore, known, blankAfter⟩, by simp, start⟩
  · rintro ⟨_, ⟨blankBefore, known, blankAfter⟩, rfl, start⟩
    refine ⟨_, _, known, trimStart_eq_iff.mpr ⟨_, blankBefore, ?_, ?_⟩,
      trimStart_eq_iff.mpr ⟨_, blankAfter, rfl, start⟩⟩
    · simp
    · simpa using (apart_of_mem_rangeSigns (within known)).1

theorem separated?_eq_some_iff
    : separated? text = some rest ↔
      ∃ separator,
        Padded ['-', ','] separator
        ∧ text = separator ++ rest
        ∧ ∀ c ∈ rest.head?, isBlank c = false := by
  rw [← exists_padded_iff (by simp [rangeSigns]), separated?]
  constructor
  · intro read
    split at read
    · next behind found => exact ⟨'-', behind, by simp, found, Option.some.inj read⟩
    · next behind found => exact ⟨',', behind, by simp, found, Option.some.inj read⟩
    · contradiction
  · rintro ⟨sign, behind, known, found, rfl⟩
    have either : sign = '-' ∨ sign = ',' := by simpa using known
    rcases either with rfl | rfl <;> simp only [found]

theorem closed?_eq_some_iff
    : closed? text = some rest ↔
      ∃ closing,
        Padded [']'] closing ∧ text = closing ++ rest ∧ ∀ c ∈ rest.head?, isBlank c = false := by
  rw [← exists_padded_iff (by simp [rangeSigns]), closed?]
  constructor
  · intro read
    split at read
    · next behind found => exact ⟨']', behind, by simp, found, Option.some.inj read⟩
    · contradiction
  · rintro ⟨sign, behind, known, found, rfl⟩
    obtain rfl := List.mem_singleton.mp known
    simp only [found]

theorem dropOneBlank_eq_iff
    : dropOneBlank text = rest ↔ ∃ gap, Gap rest gap ∧ text = gap ++ rest := by
  constructor
  · rintro rfl
    cases text with
    | nil => exact ⟨[], .nothing (by simp [dropOneBlank]), rfl⟩
    | cons c text =>
        by_cases blank : isBlank c = true
        · exact ⟨[c], .blank blank, by simp [dropOneBlank, blank]⟩
        · exact ⟨[], .nothing (by simp [dropOneBlank, blank]), by simp [dropOneBlank, blank]⟩
  · rintro ⟨gap, skipped, rfl⟩
    cases skipped with
    | blank blank => simp [dropOneBlank, blank]
    | nothing solid =>
        cases rest with
        | nil => rfl
        | cons c rest => simp [dropOneBlank, solid c rfl]

/-- A padded sign ends the digits before it. -/
theorem Padded.ends_digits {signs padded : List Char} (h : Padded signs padded)
    (within : signs ⊆ rangeSigns) (rest : List Char)
    : ∀ c ∈ (padded ++ rest).head?, isDigit c = false := by
  obtain @⟨before, sign, after, blankBefore, known, -⟩ := h
  cases before with
  | nil => simpa using (apart_of_mem_rangeSigns (within known)).2
  | cons c before => simpa using isDigit_of_isBlank (blankBefore c (by simp))

theorem UpperBound.solid {last : Option Int64} {upper : List Char} (h : UpperBound last upper)
    (rest : List Char)
    : ∀ c ∈ (upper ++ rest).head?, isBlank c = false := by
  cases h with
  | unbounded =>
      have star : isBlank '*' = false := by decide
      simpa using star
  | number numeral => exact numeral.solid rest

theorem rangeEnd?_eq_some_iff {last : Option Int64} (ends : ∀ c ∈ rest.head?, isDigit c = false)
    : rangeEnd? text = some (last, rest) ↔
      ∃ upper, UpperBound last upper ∧ text = upper ++ rest := by
  constructor
  · intro read
    unfold rangeEnd? at read
    split at read
    · obtain ⟨rfl, rfl⟩ := Prod.mk.inj (Option.some.inj read)
      exact ⟨_, .unbounded, rfl⟩
    · obtain ⟨⟨n, behind⟩, found, eq⟩ := Option.map_eq_some_iff.mp read
      obtain ⟨rfl, rfl⟩ := Prod.mk.inj eq
      obtain ⟨digits, numeral, parts, -⟩ := number?_eq_some_iff.mp found
      exact ⟨digits, .number numeral, parts⟩
  · rintro ⟨upper, bounds, rfl⟩
    cases bounds with
    | unbounded => rfl
    | number numeral =>
        have found := number?_eq_some_iff.mpr ⟨upper, numeral, rfl, ends⟩
        unfold rangeEnd?
        split
        · next behind eq =>
            obtain ⟨c, digits, rfl⟩ := List.exists_cons_of_ne_nil numeral.nonempty
            obtain rfl : c = '*' := (List.cons.inj eq).1
            have star := numeral.ascii '*' (by simp)
            contradiction
        · rw [found, Option.map_some]

-----------------------------------------------------------------------------------------
-- Reading tags
-----------------------------------------------------------------------------------------

theorem exactTag?_eq_some_iff {tag : Tag}
    : exactTag? text = some (tag, rest) ↔ (∃ n, tag = .exact n) ∧ Tagged rest tag text := by
  constructor
  · intro read
    unfold exactTag? at read
    split at read
    · next inside opens =>
        split at read
        · next n behind found =>
            obtain ⟨rfl, dropped⟩ := Prod.mk.inj (Option.some.inj read)
            obtain ⟨before, blankBefore, rfl, -⟩ := trimStart_eq_iff.mp opens
            obtain ⟨digits, numeral, rfl, -⟩ := number?_eq_some_iff.mp found
            obtain ⟨gap, skipped, rfl⟩ := dropOneBlank_eq_iff.mp dropped
            exact ⟨⟨n, rfl⟩, .exact blankBefore numeral skipped⟩
        · contradiction
    · contradiction
  · rintro ⟨⟨n, rfl⟩, written⟩
    obtain @⟨before, digits, _, gap, blankBefore, numeral, skipped⟩ := written
    have opens : trimStart (before ++ '\x7b' :: (digits ++ '\x7d' :: (gap ++ rest))) =
        '\x7b' :: (digits ++ '\x7d' :: (gap ++ rest)) :=
      trimStart_eq_iff.mpr
        ⟨before, blankBefore, rfl, fun _ first => Option.some.inj first ▸ by decide⟩
    have found : number? (digits ++ '\x7d' :: (gap ++ rest)) = some (n, '\x7d' :: (gap ++ rest)) :=
      number?_eq_some_iff.mpr
        ⟨digits, numeral, rfl, fun _ first => Option.some.inj first ▸ by decide⟩
    have dropped : dropOneBlank (gap ++ rest) = rest := dropOneBlank_eq_iff.mpr ⟨gap, skipped, rfl⟩
    simp only [exactTag?, opens, found, dropped]

theorem rangeTag?_eq_some_iff {tag : Tag}
    : rangeTag? text = some (tag, rest) ↔
      (∃ first last, tag = .range first last) ∧ Tagged rest tag text := by
  constructor
  · intro read
    unfold rangeTag? at read
    split at read
    · next inside opened =>
        simp only [Option.bind_eq_bind, Option.bind_eq_some_iff, Option.pure_def] at read
        obtain ⟨⟨first, _⟩, found, _, separated, ⟨last, _⟩, bounded, behind, closed, eq⟩ := read
        obtain ⟨rfl, rfl⟩ := Prod.mk.inj (Option.some.inj eq)
        obtain ⟨closing, closes, rfl, solid⟩ := closed?_eq_some_iff.mp closed
        have afterUpper := closes.ends_digits (by simp [rangeSigns]) behind
        obtain ⟨upper, bounds, rfl⟩ := (rangeEnd?_eq_some_iff afterUpper).mp bounded
        obtain ⟨separator, separates, rfl, -⟩ := separated?_eq_some_iff.mp separated
        obtain ⟨digits, numeral, parts, -⟩ := number?_eq_some_iff.mp found
        have bracket : '[' ∈ ['['] := by simp
        obtain ⟨opening, opens, rfl, -⟩ :=
          (exists_padded_iff (by simp [rangeSigns])).mp ⟨'[', inside, bracket, opened, parts⟩
        exact ⟨⟨first, last, rfl⟩, .range opens numeral separates bounds closes solid⟩
    · contradiction
  · rintro ⟨⟨first, last, rfl⟩, written⟩
    cases written with
    | @range opening digits _ separator upper _ closing opens numeral separates bounds closes
        solid =>
        have afterFirst := separates.ends_digits (by simp [rangeSigns]) (upper ++ (closing ++ rest))
        have afterUpper := closes.ends_digits (by simp [rangeSigns]) rest
        have found := number?_eq_some_iff.mpr ⟨digits, numeral, rfl, afterFirst⟩
        have separated := separated?_eq_some_iff.mpr
          ⟨separator, separates, rfl, bounds.solid (closing ++ rest)⟩
        have bounded := (rangeEnd?_eq_some_iff afterUpper).mpr ⟨upper, bounds, rfl⟩
        have closed := closed?_eq_some_iff.mpr ⟨closing, closes, rfl, solid⟩
        obtain ⟨sign, inside, known, opened, trimmed⟩ :=
          (exists_padded_iff (by simp [rangeSigns])).mpr ⟨opening, opens, rfl,
            numeral.solid (separator ++ (upper ++ (closing ++ rest)))⟩
        obtain rfl := List.mem_singleton.mp known
        simp [rangeTag?, opened, trimmed, found, separated, bounded, closed]

/-- A text that starts with a range does not start with a number in braces. -/
theorem exactTag?_eq_none_of_range {parsed : Tag × List Char} (found : rangeTag? text = some parsed)
    : exactTag? text = none := by
  unfold rangeTag? at found
  split at found
  · next inside opens =>
      rw [exactTag?, opens]
      rfl
  · contradiction

theorem tag?_eq_some_iff {tag : Tag}
    : tag? text = some (tag, rest) ↔ Tagged rest tag text := by
  constructor
  · intro read
    cases exact : exactTag? text with
    | some parsed =>
        rw [tag?, exact] at read
        exact (exactTag?_eq_some_iff.mp (exact.trans read)).2
    | none =>
        rw [tag?, exact] at read
        exact (rangeTag?_eq_some_iff.mp read).2
  · intro written
    cases tag with
    | exact n => rw [tag?, exactTag?_eq_some_iff.mpr ⟨⟨n, rfl⟩, written⟩, Option.orElse_some]
    | range first last =>
        have found := rangeTag?_eq_some_iff.mpr ⟨⟨first, last, rfl⟩, written⟩
        rw [tag?, exactTag?_eq_none_of_range found, Option.orElse_none, found]

/-- How a form is read: as the tag and the text that it is written with, or as a text without a tag
if it is written with none.
-/
inductive ReadAs (form : String) : PluralForm → Prop
  | tagged {tag text} (written : Tagged text.toList tag form.toList)
    : ReadAs form ⟨some tag, text⟩
  | plain (other : ∀ tag text, ¬ Tagged text tag form.toList) : ReadAs form ⟨none, form⟩

/-- Every form is read in one way: the tag and the text are those of the notation. -/
theorem parse_eq_iff_readAs {form : String} {parsed : PluralForm}
    : parse form = parsed ↔ ReadAs form parsed := by
  constructor
  · rintro rfl
    unfold parse
    split
    · next tag text found =>
        refine .tagged ?_
        rw [String.toList_ofList]
        exact tag?_eq_some_iff.mp found
    · next missing =>
        refine .plain fun tag text written => ?_
        rw [tag?_eq_some_iff.mpr written] at missing
        contradiction
  · intro reading
    cases reading with
    | tagged written => simp only [parse, tag?_eq_some_iff.mpr written, String.ofList_toList]
    | plain other =>
        have missing : tag? form.toList = none :=
          Option.eq_none_iff_forall_ne_some.mpr
            fun ⟨tag, text⟩ found => other tag text (tag?_eq_some_iff.mp found)
        simp only [parse, missing]

-- One character of white space goes with a number, and all of it with a range; a number beyond 64
-- bits is no tag.
example
    : parse " \x7b007\x7d  x" = ⟨some (.exact 7), " x"⟩
      ∧ parse "\t[ 2 , *\u3000]  x" = ⟨some (.range 2 none), "x"⟩
      ∧ parse " [1-9223372036854775808] x" = ⟨none, " [1-9223372036854775808] x"⟩ := by
  decide

end Phrasebook.PluralForm
