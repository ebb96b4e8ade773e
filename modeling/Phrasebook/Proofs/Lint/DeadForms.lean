import Phrasebook.Lint
import Phrasebook.Proofs.PluralForm.Selection

/-! Plural forms that lint calls dead: ranges that contain no count, and numbers that an earlier form
has. Without them the choice of a form is the same, unless it falls on forms with tags for want of a
form without one.
-/

namespace Phrasebook

open PluralForm

/-- Whether the warning is about a form that no count selects. -/
def Warning.callsDead : Warning → Bool
  | .emptyRange _ _ => true
  | .duplicateExact _ _ => true
  | .malformedTag _ _ => false
  | .notText _ => false
  | .unreachable _ => false

/-- The forms with the warnings about each, after forms with the exact counts `seen`. -/
def lintedForms (key : String) : List Int64 → List String → List (String × List Warning)
  | _, [] => []
  | seen, form :: rest =>
      (form, formWarnings key seen form)
        :: lintedForms key ((exactCount? form).toList ++ seen) rest

/-- The warnings about the single forms are all there are, by induction on the forms. -/
theorem lintForms_eq_flatMap (key : String) (seen : List Int64) (forms : List String)
    : lintForms key seen forms = (lintedForms key seen forms).flatMap Prod.snd := by
  induction forms generalizing seen with
  | nil => rfl
  | cons form rest ih => rw [lintForms, lintedForms, List.flatMap_cons, ih]

/-- The forms that no warning calls dead, after forms with the exact counts `seen`. -/
def liveForms (key : String) (seen : List Int64) (forms : List String) : List String :=
  ((lintedForms key seen forms).filter fun (_, warnings) => !warnings.any Warning.callsDead).map
    Prod.fst

theorem liveForms_cons (key : String) (seen : List Int64) (form : String) (rest : List String)
    : liveForms key seen (form :: rest) =
      if (formWarnings key seen form).any Warning.callsDead then
        liveForms key ((exactCount? form).toList ++ seen) rest
      else form :: liveForms key ((exactCount? form).toList ++ seen) rest := by
  rw [liveForms, lintedForms, List.filter_cons, liveForms]
  cases dead : (formWarnings key seen form).any Warning.callsDead <;> simp [dead]

theorem answers_exact_iff {form : String} {count : Int64}
    : (parse form).answers true count = true ↔ exactCount? form = some count := by
  rw [answers, exactCount?]
  cases (parse form).tag with
  | none => simp
  | some tag =>
      cases tag with
      | exact n => simpa [Tag.isExact, Tag.admits] using eq_comm
      | range first last => simp [Tag.isExact]

/-- A form is called dead only for a number that was seen or for a range that ends before it starts.
-/
theorem dead_cases {key form : String} {seen : List Int64}
    (dead : (formWarnings key seen form).any Warning.callsDead = true)
    : (∃ n ∈ seen, (parse form).tag = some (.exact n)) ∨
      ∃ first last, last < first ∧ (parse form).tag = some (.range first (some last)) := by
  unfold formWarnings at dead
  split at dead
  · split at dead <;> contradiction
  · next n tag =>
      split at dead
      · next known => exact .inl ⟨n, by simpa using known, tag⟩
      · contradiction
  · next first last tag =>
      split at dead
      · next crossed => exact .inr ⟨first, last, crossed, tag⟩
      · contradiction
  · contradiction

theorem tag_ne_none_of_dead {key form : String} {seen : List Int64}
    (dead : (formWarnings key seen form).any Warning.callsDead = true)
    : (parse form).tag ≠ none := by
  rcases dead_cases dead with ⟨n, -, tag⟩ | ⟨first, last, -, tag⟩ <;> simp [tag]

theorem not_answers_range_of_dead {key form : String} {seen : List Int64}
    (dead : (formWarnings key seen form).any Warning.callsDead = true) (count : Int64)
    : (parse form).answers false count = false := by
  rcases dead_cases dead with ⟨n, -, tag⟩ | ⟨first, last, crossed, tag⟩
  · simp [answers, tag, Tag.isExact]
  · have outside : ¬(first ≤ count ∧ count ≤ last) := by
      intro inside
      rw [Int64.le_iff_toInt_le, Int64.le_iff_toInt_le] at inside
      rw [Int64.lt_iff_toInt_lt] at crossed
      omega
    simpa [answers, tag, Tag.isExact, Tag.admits] using outside

/-- A count that was not seen is none of the numbers that were. -/
theorem not_answers_exact_of_dead {key form : String} {seen : List Int64}
    (dead : (formWarnings key seen form).any Warning.callsDead = true) {count : Int64}
    (fresh : count ∉ seen)
    : (parse form).answers true count = false := by
  rcases dead_cases dead with ⟨n, known, tag⟩ | ⟨first, last, -, tag⟩
  · have ne : count ≠ n := fun same => fresh (same ▸ known)
    simpa [answers, tag, Tag.isExact, Tag.admits] using ne
  · simp [answers, tag, Tag.isExact]

-----------------------------------------------------------------------------------------
-- What the choice of a form reads is left
-----------------------------------------------------------------------------------------

theorem untagged_liveForms (key : String) (seen : List Int64) (forms : List String)
    : untagged ((liveForms key seen forms).map parse) = untagged (forms.map parse) := by
  induction forms generalizing seen with
  | nil => rfl
  | cons form rest ih =>
      rw [liveForms_cons]
      split
      · next dead =>
          rw [ih, List.map_cons, untagged_cons_of_tag (tag_ne_none_of_dead dead)]
      · simp only [List.map_cons, untagged, List.filter_cons] at ih ⊢
        split
        · rw [List.map_cons, List.map_cons, ih]
        · exact ih _

theorem tagged_range_liveForms (key : String) (count : Int64) (seen : List Int64)
    (forms : List String)
    : tagged false count ((liveForms key seen forms).map parse) =
      tagged false count (forms.map parse) := by
  induction forms generalizing seen with
  | nil => rfl
  | cons form rest ih =>
      rw [liveForms_cons]
      split
      · next dead =>
          rw [ih, List.map_cons, tagged_cons, not_answers_range_of_dead dead, if_neg (by decide)]
      · rw [List.map_cons, List.map_cons, tagged_cons, tagged_cons, ih]

/-- The count is not among the numbers seen as long as no form has answered it, since the first form
with its number does.
-/
theorem tagged_exact_liveForms (key : String) {count : Int64} {seen : List Int64}
    (fresh : count ∉ seen) (forms : List String)
    : tagged true count ((liveForms key seen forms).map parse) =
      tagged true count (forms.map parse) := by
  induction forms generalizing seen with
  | nil => rfl
  | cons form rest ih =>
      by_cases answered : (parse form).answers true count = true
      · have live : ¬(formWarnings key seen form).any Warning.callsDead = true := by
          intro dead
          rw [not_answers_exact_of_dead dead fresh] at answered
          contradiction
        rw [liveForms_cons, if_neg live, List.map_cons, List.map_cons, tagged_cons, tagged_cons,
          if_pos answered, if_pos answered]
      · have still : count ∉ (exactCount? form).toList ++ seen := by
          rw [List.mem_append, Option.mem_toList, ← answers_exact_iff, not_or]
          exact ⟨answered, fresh⟩
        rw [List.map_cons, tagged_cons, if_neg answered, ← ih still, liveForms_cons]
        split
        · rfl
        · rw [List.map_cons, tagged_cons, if_neg answered]

/-- Without the forms that lint calls dead, the choice of a form for a count is the same if there is
a form without a tag or one whose tag admits the count.
-/
theorem select_liveForms (key : String) (count : Int64) (forms : List String)
    (decided : ∃ form ∈ forms, (parse form).tag = none ∨ (parse form).admits count = true)
    : select count (liveForms key [] forms) = select count forms := by
  have unseen : count ∉ ([] : List Int64) := List.not_mem_nil
  have exact := tagged_exact_liveForms key unseen forms
  have range := tagged_range_liveForms key count [] forms
  have plain := untagged_liveForms key [] forms
  exact (select_congr exact.symm range.symm plain.symm decided).symm

/-- A number that was seen and an empty range are left out, and the range behind them still answers.
-/
theorem select_live_range
    : let forms := formsOf "{2} two|{2} deux|[9-3] odd|[3,*] many|none"
      liveForms "n" [] forms = ["{2} two", "[3,*] many", "none"]
        ∧ select 7 (liveForms "n" [] forms) = some "many" := by
  intro forms
  refine ⟨by decide, (select_liveForms "n" 7 forms ⟨"none", by decide, by decide⟩).trans ?_⟩
  decide

-- When all forms have tags and none admits the count, the choice falls on the forms by position, and
-- that changes with the forms before them.
example
    : select 5 ["{1} a", "{1} b"] = some "{1} b"
      ∧ select 5 (liveForms "n" [] ["{1} a", "{1} b"]) = some "{1} a" := by
  decide

end Phrasebook
