import Phrasebook.Json.Value

/-! The parts of a JSON value: its items or members, the numbers anywhere in it, and how deep its
brackets nest.
-/

namespace Phrasebook.Json

/-- A property of all values, shown for a value from its items or the values of its members. -/
@[elab_as_elim]
theorem induction {motive : Json → Prop} (null : motive .null) (bool : ∀ b, motive (.bool b))
    (number : ∀ n, motive (.number n)) (string : ∀ s, motive (.string s))
    (array : ∀ items, (∀ item ∈ items, motive item) → motive (.array items))
    (object : ∀ members, (∀ member ∈ members, motive member.2) → motive (.object members))
    (value : Json)
    : motive value := by
  cases value with
  | null => exact null
  | bool b => exact bool b
  | number n => exact number n
  | string s => exact string s
  | array items =>
      refine array items fun item member => ?_
      have smaller := List.sizeOf_lt_of_mem member
      exact induction null bool number string array object item
  | object members =>
      refine object members fun member listed => ?_
      have smaller := List.sizeOf_lt_of_mem listed
      have within : sizeOf member.2 < sizeOf member := by
        cases member
        simp only [Prod.mk.sizeOf_spec]
        omega
      exact induction null bool number string array object member.2
termination_by sizeOf value

mutual

/-- The numbers in a value, at any depth. -/
def numbers : Json → List Number
  | .number n => [n]
  | .array items => itemNumbers items
  | .object members => memberNumbers members
  | .null | .bool _ | .string _ => []

def itemNumbers : List Json → List Number
  | [] => []
  | item :: items => numbers item ++ itemNumbers items

def memberNumbers : List (String × Json) → List Number
  | [] => []
  | (_, value) :: members => numbers value ++ memberNumbers members

end

theorem mem_numbers_array {n : Number} {items : List Json}
    : n ∈ (array items).numbers ↔ ∃ item ∈ items, n ∈ item.numbers := by
  rw [numbers]
  induction items with
  | nil => simp [itemNumbers]
  | cons item items ih => simp [itemNumbers, ih]

theorem mem_numbers_object {n : Number} {members : List (String × Json)}
    : n ∈ (object members).numbers ↔ ∃ member ∈ members, n ∈ member.2.numbers := by
  rw [numbers]
  induction members with
  | nil => simp [memberNumbers]
  | cons member members ih => simp [memberNumbers, ih]

mutual

/-- The number of brackets that are open at once in the text of a value. -/
def depth : Json → Nat
  | .array items => itemDepth items + 1
  | .object members => memberDepth members + 1
  | .null | .bool _ | .number _ | .string _ => 0

def itemDepth : List Json → Nat
  | [] => 0
  | item :: items => max (depth item) (itemDepth items)

def memberDepth : List (String × Json) → Nat
  | [] => 0
  | (_, value) :: members => max (depth value) (memberDepth members)

end

theorem depth_item_lt {items : List Json} {item : Json} (member : item ∈ items)
    : item.depth < (array items).depth := by
  rw [depth, Nat.lt_succ_iff]
  induction items with
  | nil => contradiction
  | cons first items ih =>
      rw [itemDepth]
      rcases List.mem_cons.mp member with rfl | later
      · exact Nat.le_max_left ..
      · exact Nat.le_trans (ih later) (Nat.le_max_right ..)

theorem depth_object_le_iff {members : List (String × Json)} {bound : Nat}
    : (object members).depth ≤ bound + 1 ↔ ∀ member ∈ members, member.2.depth ≤ bound := by
  rw [depth, Nat.add_le_add_iff_right]
  induction members with
  | nil => simp [memberDepth]
  | cons member members ih => rw [memberDepth, Nat.max_le, ih, List.forall_mem_cons]

theorem depth_member_lt {members : List (String × Json)} {member : String × Json}
    (listed : member ∈ members)
    : member.2.depth < (object members).depth := by
  rw [depth, Nat.lt_succ_iff]
  exact depth_object_le_iff.mp Nat.le.refl member listed

end Phrasebook.Json
