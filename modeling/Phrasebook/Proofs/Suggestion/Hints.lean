import Phrasebook.Command.Results
import Phrasebook.Proofs.PluralForm.Selection
import Phrasebook.Proofs.Suggestion.Ranking

/-! When similar keys are suggested for a key. The program looks for them whenever the text for the
key is the key itself, which also happens to keys that have a template.
-/

namespace Phrasebook

open Phrasebook.Text

-----------------------------------------------------------------------------------------
-- Suggestions for a key
-----------------------------------------------------------------------------------------

theorem suggestions_ne_nil_iff {key : String} {available : List String}
    : suggestions key available ≠ [] ↔
      ∃ near ∈ available, editDistance key near ≤ maxEdits := by
  have ranked : rankedKeys key available ≠ [] ↔
      ∃ near ∈ available, editDistance key near ≤ maxEdits := by
    simp only [ne_eq, List.eq_nil_iff_forall_not_mem, mem_rankedKeys_iff, not_forall, not_not]
  rw [← ranked, suggestions_eq_take]
  cases rankedKeys key available <;> simp [maxSuggestions]

/-- A key that is available is suggested for itself: nothing else is as near. -/
theorem mem_suggestions_self_iff {key : String} {available : List String}
    : key ∈ suggestions key available ↔ key ∈ available := by
  rw [suggestions_eq_take]
  constructor
  · intro suggested
    exact (mem_rankedKeys_iff.mp (List.mem_of_mem_take suggested)).1
  · intro within
    have itself : key ∈ keysAtDistance key available 0 :=
      List.mem_filter.mpr ⟨within, decide_eq_true (editDistance_eq_zero_iff.mpr rfl)⟩
    obtain ⟨first, others, eq⟩ := List.exists_cons_of_ne_nil (List.ne_nil_of_mem itself)
    -- The first of those at no distance is the key, since they all are.
    have least : first ∈ keysAtDistance key available 0 := eq ▸ List.mem_cons_self
    obtain rfl := editDistance_eq_zero_iff.mp (of_decide_eq_true (List.mem_filter.mp least).2)
    rw [rankedKeys_eq, eq]
    exact List.mem_cons_self

-----------------------------------------------------------------------------------------
-- Keys that have a template
-----------------------------------------------------------------------------------------

/-- What a call makes of the template of its key: the template filled, or with a count the form for
the count filled.
-/
inductive Renders (template : String) (argument : Argument) : Option Int64 → String → Prop
  | plain : Renders template argument none (interpolate template argument.normalize)
  | plural {count : Int64} {form : String}
    (selected : PluralForm.select count (PluralForm.formsOf template) = some form)
    : Renders template argument (some count)
        (interpolate form (some (Dictionary.countBindings count argument.normalize)))

/-- A key with a template has the text that is made of it, whichever way it is asked for. -/
theorem Dictionary.answer_eq_iff {d : Dictionary} {key template : String}
    (found : d.lookup key = some template) {count : Option Int64} {argument : Argument}
    {text : String}
    : d.answer key count argument = text ↔ Renders template argument count text := by
  cases count with
  | none =>
      have filled : d.answer key none argument = interpolate template argument.normalize := by
        simp only [answer, translate, resolveDirect, found, Option.getD_some]
      rw [filled]
      constructor
      · rintro rfl
        exact .plain
      · intro rendered
        cases rendered
        rfl
  | some count =>
      obtain ⟨form, selected⟩ := PluralForm.exists_select count (PluralForm.formsOf_ne_nil template)
      have filled : d.answer key (some count) argument =
          interpolate form (some (countBindings count argument.normalize)) := by
        simp only [answer, translatePlural, resolvePlural, found, selected]
      rw [filled]
      constructor
      · rintro rfl
        exact .plural selected
      · intro rendered
        cases rendered with
        | plural other => rw [Option.some.inj (other.symm.trans selected)]

-----------------------------------------------------------------------------------------
-- Hints
-----------------------------------------------------------------------------------------

namespace Command

theorem suggestions_translateKey (d : Dictionary) (key : String) (count : Option Int64)
    (params : List (String × String))
    : (translateKey d key count params).suggestions =
      if (translateKey d key count params).result = key then suggestions key d.leafKeys else [] :=
  rfl

theorem suggestions_translateKey_ne_nil_iff {d : Dictionary} {key : String} {count : Option Int64}
    {params : List (String × String)}
    : (translateKey d key count params).suggestions ≠ [] ↔
      (translateKey d key count params).result = key
        ∧ ∃ other ∈ d.leafKeys, editDistance key other ≤ maxEdits := by
  rw [suggestions_translateKey, ← suggestions_ne_nil_iff]
  split
  · next echoed => simp [echoed]
  · next apart => simp [apart]

theorem mem_suggestions_translateKey_iff {d : Dictionary} {key : String} {count : Option Int64}
    {params : List (String × String)}
    : key ∈ (translateKey d key count params).suggestions ↔
      (translateKey d key count params).result = key ∧ key ∈ d.leafKeys := by
  rw [suggestions_translateKey]
  split
  · next echoed => simp [echoed, mem_suggestions_self_iff]
  · next apart => simp [apart]

/-- Keys are suggested exactly if the text for the key is the key itself and the dictionary lists a
key that is near. So suggestions tell that the key is unknown unless the text that is made of its own
template is the key; and the key itself is among them if it is listed.
-/
theorem hint_means_unknown_iff (d : Dictionary) (key : String) (count : Option Int64)
    (params : List (String × String))
    : let translated := translateKey d key count params
      (translated.suggestions ≠ [] ↔
          translated.result = key ∧ ∃ other ∈ d.leafKeys, editDistance key other ≤ maxEdits)
        ∧ ((translated.suggestions ≠ [] → d.lookup key = none) ↔
            ∀ template, d.lookup key = some template →
              Renders template (paramArgument params) count key →
                ∀ other ∈ d.leafKeys, maxEdits < editDistance key other)
        ∧ (key ∈ translated.suggestions ↔ translated.result = key ∧ key ∈ d.leafKeys) := by
  refine ⟨suggestions_translateKey_ne_nil_iff, ?_, mem_suggestions_translateKey_iff⟩
  constructor
  · intro unknown template found rendered other listed
    refine Nat.lt_of_not_le fun near => ?_
    have echoed : (translateKey d key count params).result = key :=
      (Dictionary.answer_eq_iff found).mpr rendered
    have hinted := suggestions_translateKey_ne_nil_iff.mpr
      ⟨echoed, other, listed, near⟩
    rw [unknown hinted] at found
    contradiction
  · intro apart hinted
    obtain ⟨echoed, other, listed, near⟩ := suggestions_translateKey_ne_nil_iff.mp hinted
    cases found : d.lookup key with
    | none => rfl
    | some template =>
        have rendered := (Dictionary.answer_eq_iff found).mp echoed
        exact absurd near (Nat.not_le.mpr (apart template found rendered other listed))

/-- A form that is a count makes the number that is its key, and the key is suggested for itself. -/
theorem hint_for_count
    : let d : Dictionary := ⟨[("a", .nested [("5", .text "x")]), ("5", .text "none|:count")]⟩
      d.lookup "5" = some "none|:count"
        ∧ Renders "none|:count" (paramArgument []) (some 5) "5"
        ∧ "5" ∈ (translateKey d "5" (some 5) []).suggestions := by
  intro d
  have found : d.lookup "5" = some "none|:count" := by decide
  have echoed : (translateKey d "5" (some 5) []).result = "5" := by decide
  have rendered : Renders "none|:count" (paramArgument []) (some 5) "5" :=
    (Dictionary.answer_eq_iff found).mp echoed
  have listed : "5" ∈ d.leafKeys := by decide
  exact ⟨found, rendered, (hint_means_unknown_iff d "5" (some 5) []).2.2.mpr ⟨echoed, listed⟩⟩

/-- A key whose template is the key itself is suggested for itself. -/
theorem hint_for_own_text
    : let d : Dictionary := ⟨[("a", .text "a"), ("ab", .text "x")]⟩
      d.lookup "a" = some "a" ∧ "a" ∈ (translateKey d "a" none []).suggestions := by
  intro d
  have echoed : (translateKey d "a" none []).result = "a" := by decide
  have listed : "a" ∈ d.leafKeys := by decide
  exact ⟨by decide, mem_suggestions_translateKey_iff.mpr ⟨echoed, listed⟩⟩

end Command

end Phrasebook
