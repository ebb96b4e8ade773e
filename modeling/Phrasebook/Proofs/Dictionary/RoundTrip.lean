import Phrasebook.Proofs.Dictionary.Levels
import Phrasebook.Proofs.Dictionary.Values
import Phrasebook.Proofs.Json.RoundTrip

/-! A dictionary is read back from its JSON text, every entry with the kind it had. Only a value
that never resolves can come back as something else: a string as a template, and an object as a
level.
-/

namespace Phrasebook

namespace Entry

theorem toMembers_eq (entries : List (String × Entry))
    : toMembers entries = entries.map fun (segment, entry) => (segment, entry.toJson) := by
  induction entries with
  | nil => rfl
  | cons pair entries ih => rw [toMembers, ih, List.map_cons]

theorem ofMembers_eq (members : List (String × Json))
    : ofMembers members = members.map fun (segment, value) => (segment, ofJson value) := by
  induction members with
  | nil => rfl
  | cons member members ih => rw [ofMembers, ih, List.map_cons]

theorem names_toMembers (entries : List (String × Entry))
    : (toMembers entries).map Prod.fst = entries.map Prod.fst := by
  rw [toMembers_eq, List.map_map]
  rfl

/-- Requires the value to be neither a string nor an object. -/
def Keeps (value : Json) : Prop :=
  (∀ s, value ≠ .string s) ∧ ∀ members, value ≠ .object members

/-- Exactly these values are read as what they are. -/
theorem ofJson_eq_other_iff {value : Json} : ofJson value = .other value ↔ Keeps value := by
  cases value with
  | string | object => simp [ofJson, Keeps]
  | null | bool | number | array => simp [ofJson, Keeps]

/-- The value that stands for an entry stands for no other, by induction on the entry. -/
theorem ofJson_toJson {entry : Entry} (keeps : ∀ value ∈ entry.values, Keeps value)
    : ofJson entry.toJson = entry := by
  induction entry using Entry.induction with
  | text template => rfl
  | nested entries ih =>
      rw [toJson, ofJson, toMembers_eq, ofMembers_eq, List.map_map]
      have kept := forall_mem_values_nested.mp keeps
      have same : ∀ pair ∈ entries, (pair.1, ofJson pair.2.toJson) = pair := fun pair member =>
        Prod.ext rfl (ih pair member (kept pair member))
      exact congrArg nested ((List.map_congr_left same).trans (List.map_id entries))
  | other value => exact ofJson_eq_other_iff.mpr (keeps value (by simp [values]))

theorem distinct_toJson {entry : Entry} (distinct : entry.Distinct)
    (names : ∀ value ∈ entry.values, value.Distinct)
    : entry.toJson.Distinct := by
  induction entry using Entry.induction with
  | text template => trivial
  | nested entries ih =>
      obtain ⟨segments, below⟩ := distinct_nested_iff.mp distinct
      refine ⟨?_, ?_⟩
      · rw [Ordered.Distinct, names_toMembers]
        exact segments
      · rw [Json.distinctMembers_iff, toMembers_eq, List.forall_mem_map]
        intro pair member
        exact ih pair member (below pair member) (forall_mem_values_nested.mp names pair member)
  | other value => exact names value (by simp [values])

theorem exists_mem_values_of_mem_numbers {entry : Entry} {n : Number}
    (member : n ∈ entry.toJson.numbers)
    : ∃ value ∈ entry.values, n ∈ value.numbers := by
  induction entry using Entry.induction with
  | text template => simp [toJson, Json.numbers] at member
  | nested entries ih =>
      obtain ⟨pair, listed, within⟩ := Json.mem_numbers_object.mp member
      rw [toMembers_eq] at listed
      obtain ⟨pair, below, rfl⟩ := List.mem_map.mp listed
      obtain ⟨value, held, found⟩ := ih pair below within
      exact ⟨value, mem_values_nested.mpr ⟨pair, below, held⟩, found⟩
  | other value => exact ⟨value, by simp [values], member⟩

end Entry

namespace Dictionary

/-- The JSON text of a dictionary without any space is read as that dictionary: the same entries in
the same order at each level, each with its kind and content. The values that never resolve must be
neither strings nor objects, their numbers integers of 64 bits, and at most as many brackets open at
once as the reader admits.
-/
theorem parse_write {d : DistinctDictionary}
    (keeps : ∀ value ∈ d.values, Entry.Keeps value) (names : ∀ value ∈ d.values, value.Distinct)
    (exact : ∀ value ∈ d.values, ∀ n ∈ value.numbers, n.Exact) (shallow : d.toJson.depth ≤ 127)
    : parse d.write = .ok d.toDictionary := by
  have integers : ∀ n ∈ (Entry.nested d.entries).toJson.numbers, n.Exact := by
    intro n member
    obtain ⟨value, held, within⟩ := Entry.exists_mem_values_of_mem_numbers member
    exact exact value held n within
  have read := Json.parseObject_compact (Entry.distinct_toJson d.distinct names) integers shallow
  have back : Entry.ofJson (Entry.nested d.entries).toJson = .nested d.entries :=
    Entry.ofJson_toJson keeps
  have entries : Entry.ofMembers (Entry.toMembers d.entries) = d.entries := Entry.nested.inj back
  rw [parse, write, toJson, read]
  exact congrArg (Except.ok ∘ Dictionary.mk) entries

/-- A dictionary with escapes in its segments and templates and with every kind of entry. -/
theorem parse_write_escapes
    : let d : Dictionary :=
        ⟨[("say \"hi\"", .text "back\\slash, \t and \x01"),
          ("", .nested [("é", .text "→"), ("empty", .nested []),
            ("other", .other (.array [.null, .bool true, .number (.integer (-9223372036854775808)),
              .string "s", .object [("deep", .number (.integer 18446744073709551615))]]))])]⟩
      parse d.write = .ok d := by
  intro d
  refine parse_write (d := ⟨d, by decide⟩) ?_ ?_ ?_ (by decide)
  · intro value held
    obtain rfl := List.mem_singleton.mp held
    exact ⟨by simp, by simp⟩
  · intro value held
    obtain rfl := List.mem_singleton.mp held
    exact ⟨trivial, trivial, trivial, trivial, ⟨by decide, trivial, trivial⟩, trivial⟩
  · intro value held n member
    obtain rfl := List.mem_singleton.mp held
    rcases List.mem_cons.mp member with rfl | last
    · exact .integer (by decide) (by decide)
    · obtain rfl := List.mem_singleton.mp last
      exact .integer (by decide) (by decide)

end Dictionary

end Phrasebook
