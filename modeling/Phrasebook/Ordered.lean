/-! Named values kept in the order in which their names first appeared. Writing to a name that is
present changes its value and keeps its position, so each name stands once.
-/

namespace Phrasebook.Ordered

variable {α : Type}

/-- Requires the names of the pairs to be pairwise different. -/
def Distinct (pairs : List (String × α)) : Prop :=
  (pairs.map Prod.fst).Nodup

instance (pairs : List (String × α)) : Decidable (Distinct pairs) :=
  inferInstanceAs (Decidable (pairs.map Prod.fst).Nodup)

/-- Binds the name to the value, in place if the name is bound and at the end otherwise. -/
def insert (name : String) (value : α) : List (String × α) → List (String × α)
  | [] => [(name, value)]
  | (other, current) :: rest =>
      if other = name then (name, value) :: rest
      else (other, current) :: insert name value rest

/-- Inserts the pairs of more into pairs, from first to last. -/
def insertAll (pairs more : List (String × α)) : List (String × α) :=
  more.foldl (fun bound (name, value) => insert name value bound) pairs

/-- Keeps for each name its first position and its last value. -/
def collect (pairs : List (String × α)) : List (String × α) :=
  insertAll [] pairs

theorem mem_names_insert {name other : String} {value : α} {pairs : List (String × α)}
    : other ∈ (insert name value pairs).map Prod.fst ↔
      other = name ∨ other ∈ pairs.map Prod.fst := by
  induction pairs with
  | nil => simp [insert]
  | cons pair rest ih =>
      by_cases h : pair.1 = name
      · simp only [insert, List.map_cons, List.mem_cons, h]
        grind
      · simp only [insert, if_neg h, List.map_cons, List.mem_cons, ih]
        grind

/-- Inserting keeps the names pairwise different, by induction on the pairs. -/
theorem Distinct.insert {pairs : List (String × α)} (h : Distinct pairs) (name : String)
    (value : α)
    : Distinct (insert name value pairs) := by
  induction pairs with
  | nil => simp [Distinct, Ordered.insert]
  | cons pair rest ih =>
      simp only [Distinct, List.map_cons, List.nodup_cons] at h ih ⊢
      by_cases eq : pair.1 = name
      · subst eq
        rw [Ordered.insert, if_pos rfl, List.map_cons, List.nodup_cons]
        exact h
      · simp only [Ordered.insert, if_neg eq, List.map_cons, List.nodup_cons]
        exact ⟨fun mem => (mem_names_insert.mp mem).elim eq h.1, ih h.2⟩

/-- Inserting several pairs keeps the names pairwise different, by induction on the new pairs. -/
theorem Distinct.insertAll {pairs : List (String × α)} (h : Distinct pairs)
    (more : List (String × α))
    : Distinct (insertAll pairs more) := by
  induction more generalizing pairs with
  | nil => exact h
  | cons pair rest ih => exact ih (h.insert pair.1 pair.2)

/-- Collected pairs have pairwise different names, since there are none to begin with. -/
theorem distinct_collect (pairs : List (String × α)) : Distinct (collect pairs) :=
  Distinct.insertAll (by simp [Distinct]) pairs

/-- Inserting adds no pair but the one inserted, by induction on the pairs. -/
theorem mem_of_mem_insert {name : String} {value : α} {pairs : List (String × α)}
    {pair : String × α} (member : pair ∈ insert name value pairs)
    : pair = (name, value) ∨ pair ∈ pairs := by
  induction pairs with
  | nil => exact .inl (by simpa [insert] using member)
  | cons first rest ih =>
      by_cases eq : first.1 = name
      · rw [insert, if_pos eq] at member
        exact (List.mem_cons.mp member).imp_right (List.mem_cons_of_mem first)
      · rw [insert, if_neg eq] at member
        rcases List.mem_cons.mp member with rfl | later
        · exact .inr (by simp)
        · exact (ih later).imp_right (List.mem_cons_of_mem first)

/-- Inserting several pairs adds no others, by induction on the new pairs. -/
theorem mem_of_mem_insertAll {pairs more : List (String × α)} {pair : String × α}
    (member : pair ∈ insertAll pairs more)
    : pair ∈ pairs ∨ pair ∈ more := by
  induction more generalizing pairs with
  | nil => exact .inl member
  | cons first rest ih =>
      rcases ih member with bound | later
      · rcases mem_of_mem_insert bound with rfl | earlier
        · exact .inr (by simp)
        · exact .inl earlier
      · exact .inr (List.mem_cons_of_mem first later)

theorem mem_of_mem_collect {pairs : List (String × α)} {pair : String × α}
    (member : pair ∈ collect pairs)
    : pair ∈ pairs :=
  (mem_of_mem_insertAll member).resolve_left List.not_mem_nil

/-- A name that is not bound yet is bound at the end, by induction on the pairs. -/
theorem insert_of_not_mem {name : String} {pairs : List (String × α)}
    (new : name ∉ pairs.map Prod.fst) (value : α)
    : insert name value pairs = pairs ++ [(name, value)] := by
  induction pairs with
  | nil => rfl
  | cons pair rest ih =>
      simp only [List.map_cons, List.mem_cons, not_or] at new
      rw [insert, if_neg (Ne.symm new.1), ih new.2, List.cons_append]

/-- New names are bound behind the others in their order, by induction on the new pairs. -/
theorem insertAll_eq_append {pairs more : List (String × α)} (h : Distinct (pairs ++ more))
    : insertAll pairs more = pairs ++ more := by
  induction more generalizing pairs with
  | nil => simp [insertAll]
  | cons pair rest ih =>
      obtain ⟨name, value⟩ := pair
      have new : name ∉ pairs.map Prod.fst := by
        intro member
        rw [Distinct, List.map_append, List.nodup_append] at h
        exact h.2.2 name member name (by simp) rfl
      have eq : pairs ++ (name, value) :: rest = (pairs ++ [(name, value)]) ++ rest := by simp
      calc
        insertAll pairs ((name, value) :: rest) = insertAll (insert name value pairs) rest := rfl
        _ = insertAll (pairs ++ [(name, value)]) rest := by rw [insert_of_not_mem new]
        _ = (pairs ++ [(name, value)]) ++ rest := ih (eq ▸ h)
        _ = pairs ++ (name, value) :: rest := eq.symm

theorem collect_eq_self {pairs : List (String × α)} (h : Distinct pairs) : collect pairs = pairs :=
  insertAll_eq_append h

theorem lookup_insert_self (name : String) (value : α) (pairs : List (String × α))
    : (insert name value pairs).lookup name = some value := by
  induction pairs with
  | nil => simp [insert]
  | cons pair rest ih =>
      obtain ⟨first, current⟩ := pair
      by_cases eq : first = name
      · simp [insert, eq]
      · rw [insert, if_neg eq, List.lookup_cons, beq_false_of_ne (Ne.symm eq)]
        exact ih

/-- Inserting leaves the values of all other names as they are, by induction on the pairs. -/
theorem lookup_insert_of_ne {name other : String} (ne : other ≠ name) (value : α)
    (pairs : List (String × α))
    : (insert name value pairs).lookup other = pairs.lookup other := by
  induction pairs with
  | nil => simp [insert, List.lookup_cons, beq_false_of_ne ne]
  | cons pair rest ih =>
      obtain ⟨first, current⟩ := pair
      by_cases eq : first = name
      · simp [insert, eq, List.lookup_cons, beq_false_of_ne ne]
      · simp [insert, eq, List.lookup_cons, ih]

/-- Binding a bound name again leaves the names and their order as they are, by induction on the
pairs.
-/
theorem names_insert_of_mem {name : String} {pairs : List (String × α)}
    (bound : name ∈ pairs.map Prod.fst) (value : α)
    : (insert name value pairs).map Prod.fst = pairs.map Prod.fst := by
  induction pairs with
  | nil => contradiction
  | cons pair rest ih =>
      by_cases eq : pair.1 = name
      · rw [insert, if_pos eq, List.map_cons, List.map_cons, eq]
      · have later : name ∈ rest.map Prod.fst :=
          (List.mem_cons.mp bound).resolve_left (Ne.symm eq)
        rw [insert, if_neg eq, List.map_cons, List.map_cons, ih later]

/-- Several new pairs add their new names behind the others, in their order, by induction on the new
pairs.
-/
theorem names_insertAll {more : List (String × α)} (h : Distinct more)
    (pairs : List (String × α))
    : (insertAll pairs more).map Prod.fst =
      pairs.map Prod.fst ++ (more.map Prod.fst).filter (· ∉ pairs.map Prod.fst) := by
  induction more generalizing pairs with
  | nil => simp [insertAll]
  | cons pair rest ih =>
      obtain ⟨name, value⟩ := pair
      simp only [Distinct, List.map_cons, List.nodup_cons] at h ih
      have step : insertAll pairs ((name, value) :: rest) =
        insertAll (insert name value pairs) rest := rfl
      rw [step, ih h.2, List.map_cons]
      by_cases bound : name ∈ pairs.map Prod.fst
      · rw [names_insert_of_mem bound, List.filter_cons_of_neg (by simpa using bound)]
      · have names : (insert name value pairs).map Prod.fst = pairs.map Prod.fst ++ [name] := by
          simp [insert_of_not_mem bound]
        -- The name just bound does not come again, so it takes nothing away from the rest.
        have same : (rest.map Prod.fst).filter (· ∉ pairs.map Prod.fst ++ [name]) =
            (rest.map Prod.fst).filter (· ∉ pairs.map Prod.fst) := by
          refine List.filter_congr fun other member => ?_
          have ne : other ≠ name := fun eq => h.1 (eq ▸ member)
          simp [ne]
        rw [names, same, List.filter_cons_of_pos (by simpa using bound), List.append_assoc]
        rfl

/-- Among pairs with pairwise different names each pair is found by its name, by induction on the
pairs.
-/
theorem lookup_of_mem {pairs : List (String × α)} (h : Distinct pairs) {name : String} {value : α}
    (member : (name, value) ∈ pairs)
    : pairs.lookup name = some value := by
  induction pairs with
  | nil => contradiction
  | cons pair rest ih =>
      simp only [Distinct, List.map_cons, List.nodup_cons] at h ih
      rcases List.mem_cons.mp member with rfl | later
      · simp
      · have ne : name ≠ pair.1 := fun eq => h.1 (eq ▸ List.mem_map_of_mem later)
        rw [List.lookup_cons, beq_false_of_ne ne]
        exact ih h.2 later

theorem mem_of_lookup {pairs : List (String × α)} {name : String} {value : α}
    (found : pairs.lookup name = some value)
    : (name, value) ∈ pairs := by
  obtain ⟨before, after, rfl, -⟩ := List.lookup_eq_some_iff.mp found
  simp

/-- Inserting several pairs binds a name to its value in the new pairs, if they have it, and else
leaves it as it is, by induction on the new pairs.
-/
theorem lookup_insertAll {more : List (String × α)} (h : Distinct more)
    (pairs : List (String × α)) (name : String)
    : (insertAll pairs more).lookup name = (more.lookup name).or (pairs.lookup name) := by
  induction more generalizing pairs with
  | nil => rfl
  | cons pair rest ih =>
      obtain ⟨first, value⟩ := pair
      simp only [Distinct, List.map_cons, List.nodup_cons] at h ih
      have step : insertAll pairs ((first, value) :: rest) =
        insertAll (insert first value pairs) rest := rfl
      rw [step, ih h.2]
      by_cases eq : name = first
      · subst eq
        have absent : rest.lookup name = none := by
          rw [List.lookup_eq_none_iff]
          intro other member
          have ne : name ≠ other.1 := fun same => h.1 (same ▸ List.mem_map_of_mem member)
          simpa using ne
        rw [absent, lookup_insert_self, List.lookup_cons_self]
        rfl
      · rw [lookup_insert_of_ne eq, List.lookup_cons, beq_false_of_ne eq]

end Phrasebook.Ordered
