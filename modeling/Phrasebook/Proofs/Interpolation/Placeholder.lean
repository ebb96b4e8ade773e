import Phrasebook.Proofs.Interpolation.Reference
import Phrasebook.Proofs.Interpolation.Skeleton

/-! A template that is one placeholder. The first name, in the order of the bindings, that the
placeholder starts with takes it. In a plural form the names for the count come first, so they also
take the placeholders of longer names; all other placeholders of the caller keep the caller's value.
-/

namespace Phrasebook

namespace Interpolation

/-- Whether the name takes a placeholder with these characters behind its colon. -/
def takes (placeholder : List Char) (entry : String × Value) : Bool :=
  entry.1 ≠ "" ∧ entry.1.toList.isPrefixOf placeholder

/-- A placeholder is replaced by the value of the first name that takes it, followed by what the
placeholder has beyond that name, by induction on the bindings.
-/
theorem fill_placeholder {placeholder : List Char} (free : ':' ∉ placeholder)
    (entries : List (String × Value))
    : fill entries (':' :: placeholder) =
      match entries.find? (takes placeholder) with
      | some (name, value) => value.display.toList ++ placeholder.drop name.toList.length
      | none => ':' :: placeholder := by
  induction entries with
  | nil => exact fill_nil _
  | cons entry rest ih =>
      obtain ⟨name, value⟩ := entry
      by_cases empty : name = ""
      · subst empty
        rw [fill_cons_empty, ih, List.find?_cons_of_neg (by simp [takes])]
      · by_cases starts : name.toList <+: placeholder
        · obtain ⟨beyond, rfl⟩ := starts
          have open_end : ':' ∉ beyond := fun member => free (List.mem_append_right _ member)
          rw [← List.cons_append, fill_cons_placeholder empty, fill_of_free open_end,
            List.find?_cons_of_pos (by simp [takes, empty])]
          simp only [List.drop_left]
        · have absent : ¬(':' :: name.toList <+: ':' :: placeholder) :=
            fun opens => starts (List.cons_prefix_cons.mp opens).2
          rw [fill_cons empty, cut_cons absent, cut_of_free _ free,
            List.find?_cons_of_neg (by simp [takes, starts])]
          simpa using ih

/-- A bound name that no other bound name is a proper prefix of takes its own placeholder. -/
theorem fill_own_placeholder {entries : List (String × Value)} (distinct : Ordered.Distinct entries)
    {name : String} {value : Value} (member : (name, value) ∈ entries) (named : name ≠ "")
    (free : ':' ∉ name.toList)
    (alone : ∀ other ∈ entries.map Prod.fst,
      other ≠ "" → other.toList <+: name.toList → other = name)
    : fill entries (':' :: name.toList) = value.display.toList := by
  have own : takes name.toList (name, value) := by simp [takes, named]
  obtain ⟨⟨first, current⟩, found⟩ :=
    Option.isSome_iff_exists.mp (List.find?_isSome.mpr ⟨_, member, own⟩)
  have within := List.mem_of_find?_eq_some found
  have taken : first ≠ "" ∧ first.toList <+: name.toList := by
    simpa [takes] using List.find?_some found
  obtain rfl : first = name := alone first (List.mem_map_of_mem within) taken.1 taken.2
  have same : some current = some value :=
    (Ordered.lookup_of_mem distinct within).symm.trans (Ordered.lookup_of_mem distinct member)
  rw [fill_placeholder free, found]
  simp [Option.some.inj same]

end Interpolation

namespace Dictionary

/-- If the form for the count is the placeholder of a name that the caller binds, the text is that
of the caller's value, unless another name of the caller or a name for the count is a proper prefix
of the name.
-/
theorem translatePlural_own_placeholder (d : Dictionary) (key : String) (count : Int64)
    (b : Bindings) {name : String} {value : Value} (bound : b.get? name = some value)
    (named : name ≠ "") (free : ':' ∉ name.toList)
    (alone : ∀ other ∈ b.entries.map Prod.fst,
      other ≠ "" → other.toList <+: name.toList → other = name)
    (clear : ∀ other ∈ ["count", "value"], other.toList <+: name.toList → other = name)
    {template : String} (found : d.lookup key = some template)
    (selected : PluralForm.select count (PluralForm.formsOf template) = some (":" ++ name))
    : d.translatePlural key count (.bindings b) = value.display := by
  have layered : (countBindings count (some b)).entries.lookup name = some value := by
    have layers := Ordered.lookup_insertAll b.distinct (Bindings.ofCount count).entries name
    rw [← Bindings.get?, bound] at layers
    exact layers
  have apart : ∀ other ∈ (countBindings count (some b)).entries.map Prod.fst,
      other ≠ "" → other.toList <+: name.toList → other = name := by
    intro other member present starts
    rw [names_countBindings, pluralNames, List.mem_append, List.mem_filter] at member
    rcases member with default | own
    · exact clear other default starts
    · exact alone other own.1 present starts
  have filled := Interpolation.fill_own_placeholder (countBindings count (some b)).distinct
    (Ordered.mem_of_lookup layered) named free apart
  have form : (":" ++ name).toList = ':' :: name.toList := by simp
  simp only [translatePlural, resolvePlural, found, selected, Argument.normalize, interpolate, form,
    filled, String.ofList_toList]

/-- The caller overrides the count, and binds a name that goes on beyond it. -/
theorem translatePlural_overridden_count
    : let d : Dictionary := ⟨[("n", .nested [("", .text "\x7b0\x7d none|:count")])]⟩
      let b := Bindings.ofList
        [("counts", .text "x"), ("value", .text "y"), ("count", .text ":value")]
      d.lookup "n." = some "\x7b0\x7d none|:count"
        ∧ PluralForm.select 3 (PluralForm.formsOf "\x7b0\x7d none|:count") = some ":count"
        ∧ d.translatePlural "n." 3 (.bindings b) = ":value" := by
  intro d b
  have bound : b.get? "count" = some (.text ":value") := rfl
  have found : d.lookup "n." = some "\x7b0\x7d none|:count" := by decide
  have selected : PluralForm.select 3 (PluralForm.formsOf "\x7b0\x7d none|:count") =
      some (":" ++ "count") := by decide
  exact ⟨found, selected, translatePlural_own_placeholder d "n." 3 b bound (by decide) (by decide)
    (by decide) (by decide) found selected⟩

/-- The count takes the placeholder of a longer name that the caller binds. -/
theorem count_takes_longer_placeholder
    : let d : Dictionary := ⟨[("k", .text ":counter")]⟩
      let b := Bindings.ofList [("counter", .text "x")]
      b.entries.map Prod.fst = ["counter"]
        ∧ b.get? "counter" = some (.text "x")
        ∧ d.lookup "k" = some ":counter"
        ∧ PluralForm.select 3 (PluralForm.formsOf ":counter") = some (":" ++ "counter")
        ∧ d.translatePlural "k" 3 (.bindings b) = "3er"
        ∧ (Value.text "x").display = "x" :=
  ⟨by decide, rfl, by decide, by decide, by decide, rfl⟩

end Dictionary

end Phrasebook
