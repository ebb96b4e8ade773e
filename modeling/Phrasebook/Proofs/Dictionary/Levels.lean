import Phrasebook.Dictionary.Json
import Phrasebook.Proofs.Json.Members

/-! Requirements on the segments of every level of a dictionary. The segments of a level are
pairwise different, however a dictionary is made.
-/

namespace Phrasebook

namespace Entry

mutual

/-- Requires P of the segments of every level of an entry. -/
def EveryLevel (P : List String → Prop) : Entry → Prop
  | .text _ => True
  | .nested entries => P (entries.map Prod.fst) ∧ EveryLevelBelow P entries
  | .other _ => True

/-- Requires P of the segments of every level below the entries. -/
def EveryLevelBelow (P : List String → Prop) : List (String × Entry) → Prop
  | [] => True
  | (_, entry) :: rest => EveryLevel P entry ∧ EveryLevelBelow P rest

end

mutual

/-- Decides a requirement on the levels of an entry. -/
def decideEveryLevel (P : List String → Prop) [DecidablePred P]
    : (entry : Entry) → Decidable (entry.EveryLevel P)
  | .text _ => inferInstanceAs (Decidable True)
  | .nested entries =>
      have := decideEveryLevelBelow P entries
      inferInstanceAs (Decidable (P (entries.map Prod.fst) ∧ EveryLevelBelow P entries))
  | .other _ => inferInstanceAs (Decidable True)

/-- Decides a requirement on the levels below the entries. -/
def decideEveryLevelBelow (P : List String → Prop) [DecidablePred P]
    : (entries : List (String × Entry)) → Decidable (EveryLevelBelow P entries)
  | [] => inferInstanceAs (Decidable True)
  | (_, entry) :: rest =>
      have := decideEveryLevel P entry
      have := decideEveryLevelBelow P rest
      inferInstanceAs (Decidable (EveryLevel P entry ∧ EveryLevelBelow P rest))

end

instance (P : List String → Prop) [DecidablePred P] (entry : Entry)
    : Decidable (entry.EveryLevel P) :=
  decideEveryLevel P entry

theorem everyLevelBelow_iff {P : List String → Prop} {entries : List (String × Entry)}
    : EveryLevelBelow P entries ↔ ∀ pair ∈ entries, pair.2.EveryLevel P := by
  induction entries with
  | nil => simp [EveryLevelBelow]
  | cons pair rest ih => simp [EveryLevelBelow, ih]

/-- Requires the segments of each level to be pairwise different. -/
def Distinct (entry : Entry) : Prop :=
  entry.EveryLevel List.Nodup

/-- Requires that no segment of any level holds a point. -/
def Undotted (entry : Entry) : Prop :=
  entry.EveryLevel fun segments => ∀ segment ∈ segments, '.' ∉ segment.toList

instance (entry : Entry) : Decidable entry.Distinct :=
  inferInstanceAs (Decidable (entry.EveryLevel _))

instance (entry : Entry) : Decidable entry.Undotted :=
  inferInstanceAs (Decidable (entry.EveryLevel _))

theorem distinct_nested_iff {entries : List (String × Entry)}
    : (nested entries).Distinct ↔
      Ordered.Distinct entries ∧ ∀ pair ∈ entries, pair.2.Distinct := by
  rw [Distinct, EveryLevel, everyLevelBelow_iff]
  rfl

theorem undotted_nested_iff {entries : List (String × Entry)}
    : (nested entries).Undotted ↔
      ∀ pair ∈ entries, '.' ∉ pair.1.toList ∧ pair.2.Undotted := by
  rw [Undotted, EveryLevel, everyLevelBelow_iff]
  simp only [List.forall_mem_map, ← forall_and]
  rfl

/-- The entries of members stand under the names of the members, in their order. -/
theorem segments_ofMembers (members : List (String × Json))
    : (ofMembers members).map Prod.fst = members.map Prod.fst := by
  induction members with
  | nil => rfl
  | cons member members ih => rw [ofMembers, List.map_cons, List.map_cons, ih]

mutual

/-- A value with distinct members stands for an entry with distinct segments. -/
theorem distinct_ofJson {value : Json} (h : value.Distinct)
    : (ofJson value).Distinct := by
  cases value with
  | object members =>
      obtain ⟨names, below⟩ := h
      refine distinct_nested_iff.mpr ⟨?_, distinct_of_mem_ofMembers below⟩
      rw [Ordered.Distinct, segments_ofMembers]
      exact names
  | string | null | bool | number | array => trivial

/-- Members with distinct values stand for entries with distinct segments. -/
theorem distinct_of_mem_ofMembers {members : List (String × Json)}
    (h : Json.DistinctMembers members)
    : ∀ pair ∈ ofMembers members, pair.2.Distinct := by
  cases members with
  | nil => simp [ofMembers]
  | cons member members =>
      rw [ofMembers, List.forall_mem_cons]
      exact ⟨distinct_ofJson h.1, distinct_of_mem_ofMembers h.2⟩

end

end Entry

namespace Dictionary

/-- Requires the segments of each level to be pairwise different. -/
def Distinct (d : Dictionary) : Prop :=
  (Entry.nested d.entries).Distinct

/-- Requires that no segment of any level holds a point. -/
def Undotted (d : Dictionary) : Prop :=
  (Entry.nested d.entries).Undotted

instance (d : Dictionary) : Decidable d.Distinct :=
  inferInstanceAs (Decidable (Entry.Distinct _))

instance (d : Dictionary) : Decidable d.Undotted :=
  inferInstanceAs (Decidable (Entry.Undotted _))

-----------------------------------------------------------------------------------------
-- Every way of making a dictionary gives it distinct segments
-----------------------------------------------------------------------------------------

theorem distinct_empty : empty.Distinct := by
  decide

/-- Pairs of distinct entries are collected into a distinct dictionary, whatever their segments. -/
theorem distinct_ofList {pairs : List (String × Entry)} (h : ∀ pair ∈ pairs, pair.2.Distinct)
    : (ofList pairs).Distinct := by
  refine Entry.distinct_nested_iff.mpr ⟨Ordered.distinct_collect pairs, ?_⟩
  exact fun pair member => h pair (Ordered.mem_of_mem_collect member)

theorem Distinct.insert {d : Dictionary} {entry : Entry} (h : d.Distinct) (segment : String)
    (own : entry.Distinct)
    : (d.insert segment entry).Distinct := by
  obtain ⟨segments, below⟩ := Entry.distinct_nested_iff.mp h
  refine Entry.distinct_nested_iff.mpr ⟨segments.insert segment entry, ?_⟩
  intro pair member
  rcases Ordered.mem_of_mem_insert member with rfl | earlier
  · exact own
  · exact below pair earlier

theorem Distinct.nestUnder {d : Dictionary} (h : d.Distinct) (segment : String)
    : (d.nestUnder segment).Distinct :=
  distinct_empty.insert segment h

/-- Nesting under several segments keeps the levels distinct, by induction on the segments. -/
theorem Distinct.nestUnderEach {d : Dictionary} (h : d.Distinct) (segments : List String)
    : (d.nestUnderEach segments).Distinct := by
  induction segments with
  | nil => exact h
  | cons segment segments ih => exact ih.nestUnder segment

/-- A dictionary that is read from a text is distinct, even if a name comes twice in the text. -/
theorem distinct_of_parse {text : String} {d : Dictionary} (read : parse text = .ok d)
    : d.Distinct := by
  obtain ⟨members, found, rfl⟩ := Json.exists_of_map_eq_ok read
  exact Entry.distinct_ofJson (Json.distinct_of_parseObject found)

end Dictionary

/-- A dictionary with pairwise different segments at each level, as every one is that is made. -/
structure DistinctDictionary extends Dictionary where
  distinct : toDictionary.Distinct

end Phrasebook
