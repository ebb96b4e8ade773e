import Mathlib.Data.List.Induction
import Phrasebook.Bindings
import Phrasebook.Proofs.Ordered.Matching

/-! Bindings laid on top of one another. A name keeps the position where it first appears and takes the
value that it has last, no matter whether pairs are inserted one by one, collected at once, or
collected in parts that are then merged.
-/

namespace Phrasebook

namespace Ordered

variable {α : Type} {pairs others : List (String × α)}

/-- Pairs with different names are told by their names in order and the values of these. -/
theorem filterMap_lookup (distinct : Distinct pairs)
    : (pairs.map Prod.fst).filterMap (fun name => (pairs.lookup name).map (name, ·)) = pairs := by
  rw [List.filterMap_map]
  refine (List.filterMap_congr fun pair member => ?_).trans List.filterMap_some
  rw [Function.comp_apply, lookup_of_mem distinct member]
  rfl

theorem eq_of_names_of_lookup (distinct : Distinct pairs) (distinct' : Distinct others)
    (names : pairs.map Prod.fst = others.map Prod.fst)
    (values : ∀ name, pairs.lookup name = others.lookup name)
    : pairs = others := by
  rw [← filterMap_lookup distinct, ← filterMap_lookup distinct', names]
  simp only [values]

end Ordered

namespace Bindings

variable {a b c : Bindings}

/-- The bound names in their order. -/
def names (b : Bindings) : List String :=
  b.entries.map Prod.fst

/-- Inserts the pairs one by one, from first to last. -/
def insertEach (b : Bindings) (pairs : List (String × Value)) : Bindings :=
  pairs.foldl (fun bound (name, value) => bound.insert name value) b

theorem ext_entries (same : a.entries = b.entries) : a = b := by
  cases a
  cases b
  rwa [mk.injEq]

theorem ext_names (same : a.names = b.names) (values : ∀ name, a.get? name = b.get? name) : a = b :=
  ext_entries (Ordered.eq_of_names_of_lookup a.distinct b.distinct same values)

-----------------------------------------------------------------------------------------
-- Merging
-----------------------------------------------------------------------------------------

theorem names_merge (a b : Bindings)
    : (a.merge b).names = a.names ++ b.names.filter (· ∉ a.names) :=
  Ordered.names_insertAll b.distinct a.entries

theorem get?_merge (a b : Bindings) (name : String)
    : (a.merge b).get? name = (b.get? name).or (a.get? name) :=
  Ordered.lookup_insertAll b.distinct a.entries name

theorem merge_empty (b : Bindings) : b.merge empty = b :=
  rfl

theorem empty_merge (b : Bindings) : empty.merge b = b :=
  ofList_entries b

/-- The new names of two layers are those of the lower one and then the rest of the upper one's, and the
values of the uppermost layer win, in whichever order the layers are merged.
-/
theorem merge_assoc (a b c : Bindings) : (a.merge b).merge c = a.merge (b.merge c) := by
  refine ext_names ?_ fun name => ?_
  · have rest : (c.names.filter (· ∉ b.names)).filter (· ∉ a.names) =
        c.names.filter (· ∉ (a.merge b).names) := by
      rw [List.filter_filter]
      refine List.filter_congr fun name _ => ?_
      by_cases lower : name ∈ a.names <;> simp [names_merge, lower]
    rw [names_merge, ← rest, names_merge, names_merge, names_merge, List.filter_append,
      List.append_assoc]
  · rw [get?_merge, get?_merge, get?_merge, get?_merge, Option.or_assoc]

/-- A layer of bindings that are there already changes nothing, not even their order. -/
theorem merge_eq_self (within : b.entries ⊆ a.entries) : a.merge b = a := by
  refine ext_names ?_ fun name => ?_
  · have known : b.names.filter (· ∉ a.names) = [] := by
      refine List.filter_eq_nil_iff.mpr fun name bound => ?_
      have lower : name ∈ a.names := List.map_subset Prod.fst within bound
      simp [lower]
    rw [names_merge, known, List.append_nil]
  · rw [get?_merge]
    cases found : b.get? name with
    | none => rfl
    | some value =>
        exact (Ordered.lookup_of_mem a.distinct (within (Ordered.mem_of_lookup found))).symm

-----------------------------------------------------------------------------------------
-- Inserting and collecting
-----------------------------------------------------------------------------------------

/-- The binding of one name. -/
def single (name : String) (value : Value) : Bindings :=
  ofList [(name, value)]

theorem merge_single (b : Bindings) (name : String) (value : Value)
    : b.merge (single name value) = b.insert name value :=
  rfl

theorem ofList_eq_insertEach (pairs : List (String × Value))
    : ofList pairs = empty.insertEach pairs := by
  suffices each : ∀ b : Bindings,
      (b.insertEach pairs).entries = Ordered.insertAll b.entries pairs from
    ext_entries (each empty).symm
  intro b
  induction pairs generalizing b with
  | nil => rfl
  | cons pair rest ih => exact ih (b.insert pair.1 pair.2)

/-- Merging collected pairs is inserting the pairs one by one, by induction on the pairs. -/
theorem merge_ofList (b : Bindings) (pairs : List (String × Value))
    : b.merge (ofList pairs) = b.insertEach pairs := by
  induction pairs generalizing b with
  | nil => rfl
  | cons pair rest ih =>
      obtain ⟨name, value⟩ := pair
      have first : ofList ((name, value) :: rest) = (single name value).merge (ofList rest) := by
        rw [ofList_eq_insertEach, ih]
        rfl
      calc
        b.merge (ofList ((name, value) :: rest)) =
            b.merge ((single name value).merge (ofList rest)) := by rw [first]
        _ = (b.insert name value).merge (ofList rest) := by rw [← merge_assoc, merge_single]
        _ = (b.insert name value).insertEach rest := ih _

theorem insertEach_append (b : Bindings) (pairs more : List (String × Value))
    : b.insertEach (pairs ++ more) = (b.insertEach pairs).insertEach more :=
  List.foldl_append

theorem ofList_append (pairs more : List (String × Value))
    : ofList (pairs ++ more) = (ofList pairs).merge (ofList more) := by
  rw [merge_ofList, ofList_eq_insertEach, ofList_eq_insertEach, insertEach_append]

theorem names_ofList (pairs : List (String × Value))
    : (ofList pairs).names = (pairs.map Prod.fst).eraseDups := by
  induction pairs using List.reverseRecOn with
  | nil => rfl
  | append_singleton pairs pair ih =>
      have last : (ofList [pair]).names = [pair.1] := rfl
      have new : [pair.1].filter (· ∉ (pairs.map Prod.fst).eraseDups) =
          ([pair.1].removeAll (pairs.map Prod.fst)).eraseDups := by
        by_cases known : pair.1 ∈ pairs.map Prod.fst <;>
          simp [List.removeAll, List.eraseDups_cons, known]
      rw [ofList_append, names_merge, ih, last, new, List.map_append, List.eraseDups_append]
      rfl

theorem get?_ofList (pairs : List (String × Value)) (name : String)
    : (ofList pairs).get? name = pairs.reverse.lookup name := by
  induction pairs with
  | nil => rfl
  | cons pair rest ih =>
      rw [← List.singleton_append, ofList_append, get?_merge, ih, List.reverse_append,
        List.lookup_append]
      rfl

-----------------------------------------------------------------------------------------
-- The bindings of a count
-----------------------------------------------------------------------------------------

theorem entries_ofCount (n : Int64)
    : (ofCount n).entries = [("count", .number n), ("value", .number n)] := by
  have distinct : Ordered.Distinct [("count", Value.number n), ("value", Value.number n)] := by
    simp [Ordered.Distinct]
  exact Ordered.collect_eq_self distinct

theorem names_ofCount (n : Int64) : (ofCount n).names = ["count", "value"] := by
  rw [names, entries_ofCount]
  rfl

theorem eq_of_get?_ofCount {n : Int64} {name : String} {value : Value}
    (found : (ofCount n).get? name = some value)
    : value = .number n := by
  rw [get?, entries_ofCount] at found
  have member := Ordered.mem_of_lookup found
  rcases List.mem_cons.mp member with same | later
  · exact (Prod.mk.inj same).2
  · exact (Prod.mk.inj (List.mem_singleton.mp later)).2

-----------------------------------------------------------------------------------------
-- Layers
-----------------------------------------------------------------------------------------

/-- Laying bindings on top of others is associative, no bindings are neutral on both sides, and a layer
laid on itself changes nothing. The upper layer gives the values of its names, and its new names come
last, in their order. Pairs that are collected keep the first position and the last value of each
name; those of two lists collected one after the other are collected in two layers, or inserted one by
one.
-/
theorem merge_laws (a b c : Bindings) (pairs more : List (String × Value))
    : (a.merge b).merge c = a.merge (b.merge c)
      ∧ empty.merge a = a
      ∧ a.merge empty = a
      ∧ a.merge a = a
      ∧ (a.merge b).names.Nodup
      ∧ (∀ name, (a.merge b).get? name = (b.get? name).or (a.get? name))
      ∧ (a.merge b).names = a.names ++ b.names.filter (· ∉ a.names)
      ∧ (ofList pairs).names = (pairs.map Prod.fst).eraseDups
      ∧ (∀ name, (ofList pairs).get? name = pairs.reverse.lookup name)
      ∧ ofList (pairs ++ more) = (ofList pairs).merge (ofList more)
      ∧ (ofList pairs).merge (ofList more) = empty.insertEach (pairs ++ more) := by
  refine ⟨merge_assoc a b c, empty_merge a, merge_empty a, merge_eq_self (List.Subset.refl _),
    (a.merge b).distinct, get?_merge a b, names_merge a b, names_ofList pairs, get?_ofList pairs,
    ofList_append pairs more, ?_⟩
  rw [← ofList_append, ofList_eq_insertEach]

end Bindings

end Phrasebook
