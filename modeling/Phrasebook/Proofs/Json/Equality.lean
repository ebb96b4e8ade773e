import Mathlib
import Phrasebook.Proofs.Json.Members
import Phrasebook.Proofs.Json.Parts
import Phrasebook.Proofs.Ordered.Matching

/-! Equality of JSON values up to the order of members is an equivalence. Arrays are compared by the
items at each position and objects by the values of each name, so the three laws follow from those
for the parts.
-/

namespace Phrasebook

namespace Number

theorem same_self_iff {n : Number} : n.same n = true ↔ n ≠ .float Float.nan := by
  cases n with
  | integer i => simp [same]
  | float x => simp [same, Float.beq_self_iff]

theorem same_symm {m n : Number} (h : m.same n = true) : n.same m = true := by
  cases m with
  | integer i =>
      cases n with
      | integer j =>
          rw [same, beq_iff_eq] at h ⊢
          exact h.symm
      | float y => contradiction
  | float x =>
      cases n with
      | integer j => contradiction
      | float y =>
          simp only [same, Float.beq_iff_ne_nan_and_eq] at h ⊢
          grind

theorem same_trans {l m n : Number} (first : l.same m = true) (second : m.same n = true)
    : l.same n = true := by
  cases l with
  | integer i =>
      cases m with
      | integer j =>
          rw [same, beq_iff_eq] at first
          exact first ▸ second
      | float y => contradiction
  | float x =>
      cases m with
      | integer j => contradiction
      | float y =>
          cases n with
          | integer k => contradiction
          | float z =>
              simp only [same, Float.beq_iff_ne_nan_and_eq] at first second ⊢
              grind

end Number

namespace Json

-----------------------------------------------------------------------------------------
-- What a value is equal to
-----------------------------------------------------------------------------------------

theorem eq_null_of_same {b : Json} (h : null.same b = true) : b = null := by
  cases b with
  | null => rfl
  | _ => contradiction

theorem eq_bool_of_same {x : Bool} {b : Json} (h : (bool x).same b = true) : b = bool x := by
  cases b with
  | bool y =>
      rw [same, beq_iff_eq] at h
      rw [h]
  | _ => contradiction

theorem eq_string_of_same {s : String} {b : Json} (h : (string s).same b = true)
    : b = string s := by
  cases b with
  | string t =>
      rw [same, beq_iff_eq] at h
      rw [h]
  | _ => contradiction

theorem exists_number_of_same {m : Number} {b : Json} (h : (number m).same b = true)
    : ∃ n, b = number n ∧ m.same n = true := by
  cases b with
  | number n => exact ⟨n, rfl, h⟩
  | _ => contradiction

theorem exists_array_of_same {items : List Json} {b : Json} (h : (array items).same b = true)
    : ∃ others, b = array others := by
  cases b with
  | array others => exact ⟨others, rfl⟩
  | _ => contradiction

theorem exists_object_of_same {members : List (String × Json)} {b : Json}
    (h : (object members).same b = true)
    : ∃ others, b = object others := by
  cases b with
  | object others => exact ⟨others, rfl⟩
  | _ => contradiction

/-- Arrays are equal if the items at each position are. -/
theorem same_array_iff {items others : List Json}
    : (array items).same (array others) = true ↔
      ∀ i : Nat, Option.Rel (fun a b : Json => a.same b = true) items[i]? others[i]? := by
  rw [same]
  induction items generalizing others with
  | nil =>
      cases others with
      | nil => simp [sameItems]
      | cons other others =>
          refine ⟨fun h => by contradiction, fun h => ?_⟩
          simpa using (h 0).eq_none_iff
  | cons item items ih =>
      cases others with
      | nil =>
          refine ⟨fun h => by contradiction, fun h => ?_⟩
          simpa using (h 0).eq_none_iff
      | cons other others =>
          rw [sameItems, Bool.and_eq_true, ih]
          constructor
          · intro h i
            cases i with
            | zero => exact .some h.1
            | succ i => exact h.2 i
          · intro h
            obtain ⟨found, eq, related⟩ := (h 0).exists_of_eq_some rfl
            exact ⟨Option.some.inj eq ▸ related, fun i => h (i + 1)⟩

theorem sameMembers_iff {members others : List (String × Json)}
    : sameMembers members others = true ↔
      ∀ member ∈ members, ∃ other,
        others.lookup member.1 = some other ∧ member.2.same other = true := by
  induction members with
  | nil => simp [sameMembers]
  | cons member members ih =>
      rw [sameMembers, Bool.and_eq_true, ih, List.forall_mem_cons]
      refine and_congr ?_ Iff.rfl
      cases others.lookup member.1 <;> simp

/-- Objects are equal if the values of each name are. -/
theorem same_object_iff {members others : List (String × Json)}
    (distinct : Ordered.Distinct members) (distinct' : Ordered.Distinct others)
    : (object members).same (object others) = true ↔
      Ordered.Matches (fun a b : Json => a.same b = true) members others := by
  rw [same, Bool.and_eq_true, beq_iff_eq, sameMembers_iff]
  exact (Ordered.matches_iff (R := fun a b : Json => a.same b = true) distinct distinct').symm

theorem distinct_of_getElem? {items : List Json} (distinct : (array items).Distinct) {i : Nat}
    {item : Json} (found : items[i]? = some item)
    : item.Distinct :=
  distinctItems_iff.mp distinct item (List.mem_of_getElem? found)

/-- Requires different names of the members of every object in a value, and no NaN among its
numbers, which no JSON text can write.
-/
structure Proper (value : Json) : Prop where
  names : value.Distinct
  numbers : Number.float Float.nan ∉ value.numbers

theorem Proper.of_mem_array {items : List Json} (proper : (array items).Proper) {item : Json}
    (member : item ∈ items)
    : item.Proper where
  names := distinctItems_iff.mp proper.names item member
  numbers := fun listed => proper.numbers (mem_numbers_array.mpr ⟨item, member, listed⟩)

theorem Proper.of_mem_object {members : List (String × Json)} (proper : (object members).Proper)
    {member : String × Json} (listed : member ∈ members)
    : member.2.Proper where
  names := distinctMembers_iff.mp proper.names.2 member listed
  numbers := fun within => proper.numbers (mem_numbers_object.mpr ⟨member, listed, within⟩)

-----------------------------------------------------------------------------------------
-- The three laws
-----------------------------------------------------------------------------------------

/-- A proper value is equal to itself, by induction on the value. -/
theorem same_self {value : Json} (proper : value.Proper) : value.same value = true := by
  induction value using Json.induction with
  | null => rfl
  | bool b => simp [same]
  | string s => simp [same]
  | number n =>
      refine Number.same_self_iff.mpr fun eq => proper.numbers ?_
      simp [Json.numbers, eq]
  | array items ih =>
      refine same_array_iff.mpr fun i => .of_self fun item found => ?_
      have member := List.mem_of_getElem? found
      exact ih item member (proper.of_mem_array member)
  | object members ih =>
      have names := proper.names.1
      refine (same_object_iff names names).mpr (Ordered.matches_self fun member listed => ?_)
      exact ih member listed (proper.of_mem_object listed)

theorem same_symm {a b : Json} (distinct : a.Distinct) (distinct' : b.Distinct)
    (h : a.same b = true)
    : b.same a = true := by
  induction a using Json.induction generalizing b with
  | null =>
      obtain rfl := eq_null_of_same h
      exact h
  | bool x =>
      obtain rfl := eq_bool_of_same h
      exact h
  | string s =>
      obtain rfl := eq_string_of_same h
      exact h
  | number m =>
      obtain ⟨n, rfl, related⟩ := exists_number_of_same h
      exact Number.same_symm related
  | array items ih =>
      obtain ⟨others, rfl⟩ := exists_array_of_same h
      rw [same_array_iff] at h ⊢
      refine fun i => (h i).turn fun item other found found' => ?_
      exact ih item (List.mem_of_getElem? found) (distinct_of_getElem? distinct found)
        (distinct_of_getElem? distinct' found')
  | object members ih =>
      obtain ⟨others, rfl⟩ := exists_object_of_same h
      rw [same_object_iff distinct.1 distinct'.1] at h
      rw [same_object_iff distinct'.1 distinct.1]
      refine h.turn fun member listed other listed' => ?_
      exact ih member listed (distinctMembers_iff.mp distinct.2 member listed)
        (distinctMembers_iff.mp distinct'.2 other listed')

theorem same_trans {a b c : Json} (distinct : a.Distinct) (distinct' : b.Distinct)
    (distinct'' : c.Distinct) (first : a.same b = true) (second : b.same c = true)
    : a.same c = true := by
  induction a using Json.induction generalizing b c with
  | null =>
      obtain rfl := eq_null_of_same first
      exact second
  | bool x =>
      obtain rfl := eq_bool_of_same first
      exact second
  | string s =>
      obtain rfl := eq_string_of_same first
      exact second
  | number l =>
      obtain ⟨m, rfl, here⟩ := exists_number_of_same first
      obtain ⟨n, rfl, there⟩ := exists_number_of_same second
      exact Number.same_trans here there
  | array items ih =>
      obtain ⟨others, rfl⟩ := exists_array_of_same first
      obtain ⟨more, rfl⟩ := exists_array_of_same second
      rw [same_array_iff] at first second ⊢
      refine fun i => (first i).chain (second i) fun item _ _ found found' found'' => ?_
      exact ih item (List.mem_of_getElem? found) (distinct_of_getElem? distinct found)
        (distinct_of_getElem? distinct' found') (distinct_of_getElem? distinct'' found'')
  | object members ih =>
      obtain ⟨others, rfl⟩ := exists_object_of_same first
      obtain ⟨more, rfl⟩ := exists_object_of_same second
      rw [same_object_iff distinct.1 distinct'.1] at first
      rw [same_object_iff distinct'.1 distinct''.1] at second
      rw [same_object_iff distinct.1 distinct''.1]
      refine first.chain second fun member listed other listed' last listed'' => ?_
      exact ih member listed (distinctMembers_iff.mp distinct.2 member listed)
        (distinctMembers_iff.mp distinct'.2 other listed')
        (distinctMembers_iff.mp distinct''.2 last listed'')

-----------------------------------------------------------------------------------------
-- The order of members
-----------------------------------------------------------------------------------------

/-- The second value is the first one with the members of one object in another order: of the value
itself, or of an object inside the value of a member or inside an item.
-/
inductive Shuffles : Json → Json → Prop where
  | members {members others : List (String × Json)} (perm : members.Perm others)
    : Shuffles (object members) (object others)
  | member {members : List (String × Json)} {name : String} {value other : Json}
      (found : members.lookup name = some value) (below : Shuffles value other)
    : Shuffles (object members) (object (Ordered.insert name other members))
  | item {items : List Json} {i : Nat} {value other : Json} (found : items[i]? = some value)
      (below : Shuffles value other)
    : Shuffles (array items) (array (items.set i other))

/-- Equality does not see the order of members, by induction on where they stand. -/
theorem Shuffles.same {a b : Json} (shuffles : a.Shuffles b) (proper : a.Proper)
    : a.same b = true := by
  induction shuffles with
  | @members members others perm =>
      have names := proper.names.1
      rw [same_object_iff names ((perm.map Prod.fst).nodup_iff.mp names)]
      exact Ordered.matches_perm names perm fun member listed =>
        same_self (proper.of_mem_object listed)
  | @member members name value other found below ih =>
      have names := proper.names.1
      rw [same_object_iff names (names.insert name other)]
      refine Ordered.matches_insert found ?_ fun member listed =>
        same_self (proper.of_mem_object listed)
      exact ih (proper.of_mem_object (Ordered.mem_of_lookup found))
  | @item items i value other found below ih =>
      rw [same_array_iff]
      intro j
      by_cases eq : i = j
      · subst eq
        obtain ⟨within, -⟩ := List.getElem?_eq_some_iff.mp found
        rw [found, List.getElem?_set_self within]
        exact .some (ih (proper.of_mem_array (List.mem_of_getElem? found)))
      · rw [List.getElem?_set_ne eq]
        exact .of_self fun item here =>
          same_self (proper.of_mem_array (List.mem_of_getElem? here))

end Json

end Phrasebook
