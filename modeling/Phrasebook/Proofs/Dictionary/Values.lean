import Phrasebook.Dictionary.Basic

/-! The parts of an entry: the entries of its level, and the values anywhere below it that are
neither templates nor levels.
-/

namespace Phrasebook

namespace Entry

/-- A property of all entries, shown for a level from its entries. -/
@[elab_as_elim]
theorem induction {motive : Entry → Prop} (text : ∀ template, motive (.text template))
    (nested : ∀ entries, (∀ pair ∈ entries, motive pair.2) → motive (.nested entries))
    (other : ∀ value, motive (.other value)) (entry : Entry)
    : motive entry := by
  cases entry with
  | text template => exact text template
  | nested entries =>
      refine nested entries fun pair member => ?_
      have smaller := List.sizeOf_lt_of_mem member
      have within : sizeOf pair.2 < sizeOf pair := by
        cases pair
        simp only [Prod.mk.sizeOf_spec]
        omega
      exact induction text nested other pair.2
  | other value => exact other value
termination_by sizeOf entry

mutual

/-- The values below an entry that never resolve, depth first. -/
def values : Entry → List Json
  | .text _ => []
  | .nested entries => valuesBelow entries
  | .other value => [value]

def valuesBelow : List (String × Entry) → List Json
  | [] => []
  | (_, entry) :: rest => values entry ++ valuesBelow rest

end

theorem mem_values_nested {value : Json} {entries : List (String × Entry)}
    : value ∈ (nested entries).values ↔ ∃ pair ∈ entries, value ∈ pair.2.values := by
  rw [values]
  induction entries with
  | nil => simp [valuesBelow]
  | cons pair entries ih => simp [valuesBelow, ih]

theorem forall_mem_values_nested {P : Json → Prop} {entries : List (String × Entry)}
    : (∀ value ∈ (nested entries).values, P value) ↔
      ∀ pair ∈ entries, ∀ value ∈ pair.2.values, P value := by
  simp only [mem_values_nested]
  constructor
  · intro all pair member value held
    exact all value ⟨pair, member, held⟩
  · rintro all value ⟨pair, member, held⟩
    exact all pair member value held

end Entry

/-- The values of a dictionary that never resolve. -/
def Dictionary.values (d : Dictionary) : List Json :=
  Entry.valuesBelow d.entries

end Phrasebook
