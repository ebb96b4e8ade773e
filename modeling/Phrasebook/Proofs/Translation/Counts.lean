import Phrasebook.Proofs.Bindings.Layers
import Phrasebook.Proofs.PluralForm.Selection
import Phrasebook.Proofs.Text.Parts
import Phrasebook.Translation

/-! Translating with a count. The count itself may be given once more, in any of its shapes, and
nothing changes; and a template that is no more than one form without a tag is filled as it is
without a count, once the names for the count are bound.
-/

namespace Phrasebook

-----------------------------------------------------------------------------------------
-- Templates of one form
-----------------------------------------------------------------------------------------

namespace PluralForm

theorem formsOf_of_free {template : String} (free : '|' ∉ template.toList)
    : formsOf template = [template] := by
  have found : formsOf ((String.singleton '|').intercalate [template]) = [template] :=
    Text.segments_intercalate (List.cons_ne_nil template []) (by simpa using free)
  rwa [String.intercalate_singleton] at found

/-- A form without a tag is kept as it is. -/
theorem parse_of_untagged {form : String} (plain : (parse form).tag = none)
    : parse form = ⟨none, form⟩ := by
  unfold parse at plain ⊢
  split at plain
  · contradiction
  · rfl

/-- The only form is chosen for every count if it has no tag. -/
theorem select_singleton (count : Int64) {form : String} (plain : (parse form).tag = none)
    : select count [form] = some form := by
  have answer (exact : Bool) : tagged exact count [parse form] = none := by
    rw [tagged_cons, answers, plain]
    rfl
  have alone : candidates [form] = [form] := by
    simp [candidates, untagged, parse_of_untagged plain]
  simp only [select, List.map_singleton, answer, alone, positional]

end PluralForm

namespace Dictionary

theorem countBindings_eq_merge (count : Int64) (bindings : Option Bindings)
    : countBindings count bindings = (Bindings.ofCount count).merge (bindings.getD .empty) := by
  cases bindings <;> rfl

/-- An argument that binds nothing but the count changes nothing. -/
theorem translatePlural_of_within (d : Dictionary) (key : String) {count : Int64}
    {argument : Argument}
    (within : (argument.normalize.getD .empty).entries ⊆ (Bindings.ofCount count).entries)
    : d.translatePlural key count argument = d.translatePlural key count .none := by
  have same : countBindings count argument.normalize =
      countBindings count Argument.none.normalize := by
    rw [countBindings_eq_merge, Bindings.merge_eq_self within]
    rfl
  rw [translatePlural, translatePlural, resolvePlural, resolvePlural, same]

theorem translatePlural_eq_translate {d : Dictionary} {key template : String}
    (found : d.lookup key = some template) (free : '|' ∉ template.toList)
    (plain : (PluralForm.parse template).tag = none) (count : Int64) (argument : Argument)
    : d.translatePlural key count argument =
      d.translate key (.bindings (countBindings count argument.normalize)) := by
  have form := PluralForm.select_singleton count plain
  rw [← PluralForm.formsOf_of_free free] at form
  simp only [translatePlural, resolvePlural, found, form, translate, Argument.normalize,
    resolveDirect_bindings, Option.getD_some]

/-- All arguments that give the count and nothing else lead to one text, also if they bind the two names
for the count in the other order. A template without vertical bars whose form has no tag is filled
like any template, with the argument laid on top of the names for the count.
-/
theorem translatePlural_same_count (d : Dictionary) (key : String) (count : Int64)
    : (∀ argument ∈ [.none, .bindings .empty, .count count,
          .bindings (.ofList [("count", .number count), ("value", .number count)]),
          .bindings (.ofList [("value", .number count), ("count", .number count)])],
        d.translatePlural key count argument = d.translatePlural key count .none)
      ∧ ∀ template,
          d.lookup key = some template →
            '|' ∉ template.toList →
              (PluralForm.parse template).tag = none →
                ∀ argument,
                  d.translatePlural key count argument =
                    d.translate key
                      (.bindings
                        ((Bindings.ofCount count).merge (argument.normalize.getD .empty))) := by
  constructor
  · refine List.forall_mem_cons.mpr ⟨rfl, ?_⟩
    intro argument member
    refine d.translatePlural_of_within key ?_
    simp only [List.mem_cons, List.not_mem_nil, or_false] at member
    rcases member with rfl | rfl | rfl | rfl
    · exact List.nil_subset _
    · exact List.Subset.refl _
    · exact List.Subset.refl _
    · intro entry bound
      have written := Ordered.mem_of_mem_collect bound
      rw [Bindings.entries_ofCount]
      grind
  · intro template found free plain argument
    rw [← countBindings_eq_merge]
    exact translatePlural_eq_translate found free plain count argument

/-- An argument that overrides one of the names for the count, and a name that starts like one. -/
theorem translatePlural_overridden_value
    : let d : Dictionary := ⟨[("k", .text ":count of :value, :counter")]⟩
      let b := Bindings.ofList [("counter", .text "x"), ("value", .text "y")]
      let layered := (Bindings.ofCount 3).merge b
      d.lookup "k" = some ":count of :value, :counter"
        ∧ '|' ∉ ":count of :value, :counter".toList
        ∧ (PluralForm.parse ":count of :value, :counter").tag = none
        ∧ d.translatePlural "k" 3 (.bindings b) = d.translate "k" (.bindings layered)
        ∧ d.translate "k" (.bindings layered) = "3 of y, 3er"
        ∧ d.translatePlural "k" 3 (.count 3) = d.translatePlural "k" 3 .none := by
  intro d b layered
  obtain ⟨same, plain⟩ := d.translatePlural_same_count "k" 3
  have found : d.lookup "k" = some ":count of :value, :counter" := by decide
  have free : '|' ∉ ":count of :value, :counter".toList := by decide
  have untagged : (PluralForm.parse ":count of :value, :counter").tag = none := by decide
  exact ⟨found, free, untagged, plain _ found free untagged (.bindings b), by decide,
    same (.count 3) (by simp)⟩

end Dictionary

end Phrasebook
