import Phrasebook.PluralForm

/-! What the choice of a plural form reads: the first form of each kind whose tag admits the count,
and the texts of the forms without a tag.
-/

namespace Phrasebook.PluralForm

/-- Whether the form has a tag of the kind that admits the count. -/
def answers (exact : Bool) (count : Int64) (form : PluralForm) : Bool :=
  form.tag.any fun tag => tag.isExact = exact ∧ tag.admits count

theorem tagged_cons (exact : Bool) (count : Int64) (form : PluralForm) (forms : List PluralForm)
    : tagged exact count (form :: forms) =
      if form.answers exact count then some form.text else tagged exact count forms := by
  rw [tagged, List.findSome?_cons, answers, ← tagged]
  cases form.tag with
  | none => rfl
  | some tag => by_cases fits : tag.isExact = exact ∧ tag.admits count <;> simp [fits]

/-- A form that admits the count answers it among the forms of its own kind, so one of the two
kinds has an answer.
-/
theorem tagged_ne_none_of_admits {count : Int64} {form : PluralForm} {forms : List PluralForm}
    (member : form ∈ forms) (fits : form.admits count = true)
    : tagged true count forms ≠ none ∨ tagged false count forms ≠ none := by
  obtain ⟨tag, eq, admitted⟩ := (Option.any_eq_true _ _).mp fits
  suffices answered : tagged tag.isExact count forms ≠ none by
    cases kind : tag.isExact with
    | true => exact .inl (kind ▸ answered)
    | false => exact .inr (kind ▸ answered)
  intro missing
  have passed := List.findSome?_eq_none_iff.mp missing form member
  simp [eq, admitted] at passed

theorem untagged_cons_of_tag {form : PluralForm} (tagged : form.tag ≠ none)
    (forms : List PluralForm)
    : untagged (form :: forms) = untagged forms := by
  rw [untagged, List.filter_cons_of_neg (by simpa using tagged), ← untagged]

theorem untagged_ne_nil {form : PluralForm} {forms : List PluralForm} (member : form ∈ forms)
    (plain : form.tag = none)
    : untagged forms ≠ [] := by
  intro empty
  have listed : form ∈ forms.filter (·.tag.isNone) := List.mem_filter.mpr ⟨member, by simp [plain]⟩
  rw [List.map_eq_nil_iff.mp empty] at listed
  contradiction

/-- Two lists of forms give the same text for a count if they have the same first answer of each
kind and the same texts without a tag, unless all forms have tags and none admits the count.
-/
theorem select_congr {count : Int64} {forms others : List String}
    (exact : tagged true count (forms.map parse) = tagged true count (others.map parse))
    (range : tagged false count (forms.map parse) = tagged false count (others.map parse))
    (plain : untagged (forms.map parse) = untagged (others.map parse))
    (decided : ∃ form ∈ forms, (parse form).tag = none ∨ (parse form).admits count = true)
    : select count forms = select count others := by
  obtain ⟨form, member, fits⟩ := decided
  have parsed : parse form ∈ forms.map parse := List.mem_map_of_mem member
  simp only [select, ← exact, ← range]
  cases first : tagged true count (forms.map parse) with
  | some text => rfl
  | none =>
      cases second : tagged false count (forms.map parse) with
      | some text => rfl
      | none =>
          have untagged_form : (parse form).tag = none := by
            refine fits.resolve_right fun admitted => ?_
            rcases tagged_ne_none_of_admits parsed admitted with answered | answered
            · exact answered first
            · exact answered second
          have some_plain := untagged_ne_nil parsed untagged_form
          have same : candidates forms = candidates others := by
            rw [candidates, candidates, ← plain]
            simp only [if_neg some_plain]
          exact congrArg (positional count) same

theorem candidates_ne_nil {forms : List String} (present : forms ≠ []) : candidates forms ≠ [] := by
  rw [candidates]
  split
  · exact present
  · assumption

/-- Every count has a text, unless there are no forms at all. -/
theorem exists_select (count : Int64) {forms : List String} (present : forms ≠ [])
    : ∃ text, select count forms = some text := by
  rw [select]
  split
  · exact ⟨_, rfl⟩
  · split
    · exact ⟨_, rfl⟩
    · cases eq : candidates forms with
      | nil => exact absurd eq (candidates_ne_nil present)
      | cons first others => cases others <;> exact ⟨_, rfl⟩

theorem formsOf_ne_nil (template : String) : formsOf template ≠ [] := by
  simp [formsOf, Text.segments, List.splitOn_ne_nil]

end Phrasebook.PluralForm
