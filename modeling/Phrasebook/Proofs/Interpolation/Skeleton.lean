import Phrasebook.Proofs.Bindings.Layers
import Phrasebook.Proofs.Interpolation.Recursion
import Phrasebook.Translation

/-! Values are never interpreted. What a key is translated to is laid out by the dictionary, the
key, the count and the names that are bound; the values only come in where this skeleton refers to
them.
-/

namespace Phrasebook

/-- A part of a text to be filled in: literal text, or a reference to a name. -/
inductive Slot where
  | literal (text : List Char)
  | reference (name : String)

namespace Slot

/-- The characters of a part, with a reference replaced by the text of its name. -/
def chars (textOf : String → String) : Slot → List Char
  | .literal text => text
  | .reference name => (textOf name).toList

/-- The parts one after another, with every reference replaced by the text of its name. -/
def render (textOf : String → String) (slots : List Slot) : String :=
  String.ofList (slots.flatMap (chars textOf))

end Slot

namespace Interpolation

/-- The skeleton of a template: each name cuts the template and is referred to between the parts,
and the names after it cut the parts.
-/
def skeleton : List String → List Char → List Slot
  | [], template => [.literal template]
  | name :: names, template =>
      if name = "" then skeleton names template
      else [.reference name].intercalate ((cut name.toList template).map (skeleton names))

/-- Parts joined by a separator are mapped to their images joined by its image, by induction on the
parts.
-/
theorem flatMap_intercalate {α β : Type} (f : α → List β) (separator : List α)
    (parts : List (List α))
    : (separator.intercalate parts).flatMap f =
      (separator.flatMap f).intercalate (parts.map (·.flatMap f)) := by
  induction parts with
  | nil => rfl
  | cons part parts ih =>
      cases parts with
      | nil => simp
      | cons next parts =>
          rw [List.intercalate_cons_cons, List.flatMap_append, List.flatMap_append, ih]
          exact List.intercalate_cons_cons.symm

/-- An element of joined parts is in the separator or in one of the parts, by induction on the
parts.
-/
theorem mem_intercalate {α : Type} {a : α} {separator : List α} {parts : List (List α)}
    (member : a ∈ separator.intercalate parts)
    : a ∈ separator ∨ ∃ part ∈ parts, a ∈ part := by
  induction parts with
  | nil => simp at member
  | cons part parts ih =>
      cases parts with
      | nil => exact .inr ⟨part, by simp, by simpa using member⟩
      | cons next parts =>
          rw [List.intercalate_cons_cons, List.mem_append, List.mem_append] at member
          rcases member with (here | between) | later
          · exact .inr ⟨part, by simp, here⟩
          · exact .inl between
          · rcases ih later with between | ⟨found, member, within⟩
            · exact .inl between
            · exact .inr ⟨found, List.mem_cons_of_mem part member, within⟩

/-- A skeleton refers to none but its names, by induction on them. -/
theorem mem_of_reference_mem_skeleton {names : List String} {template : List Char} {name : String}
    (member : .reference name ∈ skeleton names template)
    : name ∈ names := by
  induction names generalizing template with
  | nil => simp [skeleton] at member
  | cons first names ih =>
      by_cases empty : first = ""
      · rw [skeleton, if_pos empty] at member
        exact List.mem_cons_of_mem first (ih member)
      · rw [skeleton, if_neg empty] at member
        rcases mem_intercalate member with between | ⟨slots, filled, within⟩
        · have same : name = first := by simpa using between
          simp [same]
        · obtain ⟨part, -, rfl⟩ := List.mem_map.mp filled
          exact List.mem_cons_of_mem first (ih within)

/-- A filled template is its skeleton with the texts of the values at the references, by induction
on the names.
-/
theorem fill_eq_flatMap_skeleton (textOf : String → String) (entries : List (String × Value))
    (agree : ∀ entry ∈ entries, textOf entry.1 = entry.2.display) (template : List Char)
    : fill entries template =
      (skeleton (entries.map Prod.fst) template).flatMap (Slot.chars textOf) := by
  induction entries generalizing template with
  | nil => simp [fill_nil, skeleton, Slot.chars]
  | cons entry rest ih =>
      obtain ⟨name, value⟩ := entry
      have later := ih fun entry member => agree entry (List.mem_cons_of_mem _ member)
      by_cases empty : name = ""
      · subst empty
        rw [fill_cons_empty, List.map_cons, skeleton, if_pos rfl, later]
      · have here : [Slot.reference name].flatMap (Slot.chars textOf) = value.display.toList := by
          simp [Slot.chars, agree (name, value) (by simp)]
        rw [fill_cons empty, List.map_cons, skeleton, if_neg empty, flatMap_intercalate, here,
          List.map_map]
        congr 1
        exact List.map_congr_left fun part _ => later part

end Interpolation

namespace Bindings

/-- The text that b puts in place of a name. A name that b does not bind has the text of the default
value.
-/
def textOr (b : Bindings) (default : Value) (name : String) : String :=
  ((b.get? name).getD default).display

theorem textOr_of_mem (b : Bindings) (default : Value) {entry : String × Value}
    (member : entry ∈ b.entries)
    : b.textOr default entry.1 = entry.2.display := by
  rw [textOr, get?, Ordered.lookup_of_mem b.distinct member, Option.getD_some]

end Bindings

/-- Bindings fill a template by putting the texts of their names into its skeleton. -/
theorem interpolate_eq_render (template : String) (b : Bindings) {textOf : String → String}
    (agree : ∀ entry ∈ b.entries, textOf entry.1 = entry.2.display)
    : interpolate template (some b) =
      Slot.render textOf (Interpolation.skeleton (b.entries.map Prod.fst) template.toList) := by
  rw [interpolate, Slot.render, Interpolation.fill_eq_flatMap_skeleton textOf b.entries agree]

namespace Dictionary

-----------------------------------------------------------------------------------------
-- Plural forms are filled with the count under the caller's values
-----------------------------------------------------------------------------------------

/-- The names that fill a plural form: the two for the count, and the caller's other names. -/
def pluralNames (names : List String) : List String :=
  ["count", "value"] ++ names.filter (· ∉ ["count", "value"])

theorem names_countBindings (count : Int64) (b : Bindings)
    : (countBindings count (some b)).entries.map Prod.fst =
      pluralNames (b.entries.map Prod.fst) := by
  have names := Bindings.names_merge (.ofCount count) b
  rw [Bindings.names_ofCount] at names
  exact names

/-- Each name of a plural form has the caller's text, or the text of the count if the caller does
not bind it.
-/
theorem textOr_of_mem_countBindings (count : Int64) (b : Bindings) {entry : String × Value}
    (member : entry ∈ (countBindings count (some b)).entries)
    : b.textOr (.number count) entry.1 = entry.2.display := by
  obtain ⟨name, value⟩ := entry
  have found := Ordered.lookup_of_mem (countBindings count (some b)).distinct member
  have layered : (b.get? name).or ((Bindings.ofCount count).get? name) = some value := by
    rw [← found, ← Bindings.get?_merge]
    rfl
  rw [Bindings.textOr]
  cases bound : b.get? name with
  | some own =>
      rw [bound, Option.some_or, Option.some_inj] at layered
      rw [layered, Option.getD_some]
  | none =>
      rw [bound, Option.none_or] at layered
      rw [Bindings.eq_of_get?_ofCount layered, Option.getD_none]

/-- The skeleton of the text for a key and a count: that of the form for the count, or the key as it
is.
-/
def pluralSkeleton (d : Dictionary) (key : String) (count : Int64) (names : List String)
    : List Slot :=
  match d.lookup key with
  | none => [.literal key.toList]
  | some template =>
      match PluralForm.select count (PluralForm.formsOf template) with
      | none => [.literal key.toList]
      | some form => Interpolation.skeleton (pluralNames names) form.toList

/-- A key is translated with bindings by filling the skeleton of its template, or of the key itself.
-/
theorem translate_eq_render (d : Dictionary) (key : String) (b : Bindings) (default : Value)
    : d.translate key (.bindings b) =
      Slot.render (b.textOr default)
        (Interpolation.skeleton (b.entries.map Prod.fst) ((d.lookup key).getD key).toList) := by
  rw [translate, Argument.normalize, resolveDirect_bindings, Option.getD_some]
  exact interpolate_eq_render _ b fun entry member => b.textOr_of_mem default member

/-- A key is translated with a count and bindings by filling its plural skeleton. -/
theorem translatePlural_eq_render (d : Dictionary) (key : String) (count : Int64) (b : Bindings)
    : d.translatePlural key count (.bindings b) =
      Slot.render (b.textOr (.number count))
        (d.pluralSkeleton key count (b.entries.map Prod.fst)) := by
  have unchanged : key = Slot.render (b.textOr (.number count)) [.literal key.toList] := by
    simp [Slot.render, Slot.chars]
  unfold translatePlural resolvePlural pluralSkeleton
  cases d.lookup key with
  | none => exact unchanged
  | some template =>
      dsimp only
      cases PluralForm.select count (PluralForm.formsOf template) with
      | none => exact unchanged
      | some form =>
          have filled := interpolate_eq_render form (countBindings count (some b))
            fun entry member => textOr_of_mem_countBindings count b member
          rw [names_countBindings] at filled
          exact filled

/-- A plural skeleton refers to the caller's names and to those for the count only. -/
theorem mem_of_reference_mem_pluralSkeleton {d : Dictionary} {key : String} {count : Int64}
    {names : List String} {name : String}
    (member : .reference name ∈ d.pluralSkeleton key count names)
    : name ∈ names ∨ name = "count" ∨ name = "value" := by
  unfold pluralSkeleton at member
  split at member
  · simp at member
  · split at member
    · simp at member
    · have bound := Interpolation.mem_of_reference_mem_skeleton member
      simp only [pluralNames, List.mem_append, List.mem_cons, List.mem_filter] at bound
      grind

/-- What a key is translated to has a skeleton that no value changes: for every assignment of values
to the names, the text is the skeleton with the texts of the values at the references to their
names. Without a count all references are to bound names, so the default is of no account. With a
count, the names count and value stand for it unless they are bound.
-/
theorem exists_skeleton (d : Dictionary) (key : String) (count : Int64) (names : List String)
    : (∃ slots : List Slot,
        (∀ name, .reference name ∈ slots → name ∈ names)
        ∧ ∀ (b : Bindings) (default : Value),
            b.entries.map Prod.fst = names
            → d.translate key (.bindings b) = Slot.render (b.textOr default) slots)
      ∧ ∃ slots : List Slot,
          (∀ name, .reference name ∈ slots → name ∈ names ∨ name = "count" ∨ name = "value")
          ∧ ∀ b : Bindings,
              b.entries.map Prod.fst = names
              → d.translatePlural key count (.bindings b) =
                Slot.render (b.textOr (.number count)) slots := by
  constructor
  · refine ⟨Interpolation.skeleton names ((d.lookup key).getD key).toList, ?_, ?_⟩
    · intro name
      exact Interpolation.mem_of_reference_mem_skeleton
    · intro b default bound
      subst bound
      exact d.translate_eq_render key b default
  · refine ⟨d.pluralSkeleton key count names, ?_, ?_⟩
    · intro name
      exact mem_of_reference_mem_pluralSkeleton
    · intro b bound
      subst bound
      exact d.translatePlural_eq_render key count b

end Dictionary

end Phrasebook
