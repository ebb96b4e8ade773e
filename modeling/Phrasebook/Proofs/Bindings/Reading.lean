import Mathlib.Data.List.Forall2
import Phrasebook.Bindings
import Phrasebook.Proofs.Json.RoundTrip

/-! Bindings and arguments as JSON objects. Bindings are read from an object only if all of its members
are numbers and strings, and then the object stands for the same bindings as an argument. What is
written is read back, as long as every floating-point number is finite.
-/

namespace Phrasebook

open Phrasebook.Text

-----------------------------------------------------------------------------------------
-- Values
-----------------------------------------------------------------------------------------

/-- The value that a number or a string stands for. An integer beyond 64 bits stands for the nearest
floating-point number.
-/
inductive Stands : Json → Value → Prop
  | integer (n : Int64) : Stands (.number (.integer n.toInt)) (.number n)
  | beyond {i : Int} (outside : ∀ n : Int64, n.toInt ≠ i)
    : Stands (.number (.integer i)) (.float (Float.ofInt i))
  | float (x : Float) : Stands (.number (.float x)) (.float x)
  | text (s : String) : Stands (.string s) (.text s)

theorem stands_number_iff {n : Number} {v : Value}
    : Stands (.number n) v ↔ v = Value.ofNumber n := by
  constructor
  · intro h
    cases h with
    | integer n => rw [Value.ofNumber, int64?_eq_some_iff.mpr rfl]
    | @beyond i outside =>
        have none : int64? i = none := Option.eq_none_iff_forall_ne_some.mpr fun n read =>
          outside n (int64?_eq_some_iff.mp read)
        rw [Value.ofNumber, none]
        rfl
    | float x => rfl
  · rintro rfl
    cases n with
    | float x => exact .float x
    | integer i =>
        rw [Value.ofNumber]
        cases read : int64? i with
        | some n => exact int64?_eq_some_iff.mp read ▸ .integer n
        | none =>
            refine .beyond fun n same => ?_
            rw [int64?_eq_some_iff.mpr same] at read
            contradiction

theorem stands_string_iff {s : String} {v : Value} : Stands (.string s) v ↔ v = .text s := by
  constructor
  · rintro ⟨⟩
    rfl
  · rintro rfl
    exact .text s

/-- The first kind of value that a number can be is the one that it stands for: an integer of 64 bits
comes before the floating-point numbers, which every number can be.
-/
theorem Value.ofJson?_number (n : Number) : ofJson? (.number n) = some (ofNumber n) := by
  cases n with
  | float x => rfl
  | integer i =>
      rw [ofJson?, Json.int64?, ofNumber]
      cases int64? i <;> rfl

/-- Exactly the numbers and strings are read as values. -/
theorem Value.ofJson?_eq_some_iff {value : Json} {v : Value}
    : ofJson? value = some v ↔ Stands value v := by
  cases value with
  | number n => rw [ofJson?_number, stands_number_iff, Option.some_inj, eq_comm]
  | string s =>
      have read : ofJson? (.string s) = some (.text s) := rfl
      rw [read, stands_string_iff, Option.some_inj, eq_comm]
  | null | bool | array | object =>
      constructor
      · intro read
        contradiction
      · rintro ⟨⟩

theorem Argument.memberValue?_of_stands {value : Json} {v : Value} (h : Stands value v)
    : memberValue? value = some v := by
  cases value with
  | number n => rw [memberValue?, stands_number_iff.mp h]
  | string s => rw [memberValue?, stands_string_iff.mp h]
  | null | bool | array | object => cases h

theorem exists_stands_iff {value : Json}
    : (∃ v, Stands value v) ↔ (∃ n, value = .number n) ∨ ∃ s, value = .string s := by
  constructor
  · rintro ⟨v, stands⟩
    cases stands with
    | integer | beyond | float => exact .inl ⟨_, rfl⟩
    | text s => exact .inr ⟨s, rfl⟩
  · rintro (⟨n, rfl⟩ | ⟨s, rfl⟩)
    · exact ⟨_, stands_number_iff.mpr rfl⟩
    · exact ⟨_, .text s⟩

/-- Whether the value can be written: not an infinity, and no value that is not a number. -/
def Value.isFinite : Value → Bool
  | .number _ => true
  | .float x => x.isFinite
  | .text _ => true

theorem Value.stands_toJson {v : Value} (finite : v.isFinite) : Stands v.toJson v := by
  cases v with
  | number n => exact .integer n
  | float x =>
      have written : toJson (.float x) = .number (.float x) := if_pos finite
      rw [written]
      exact .float x
  | text s => exact .text s

theorem Argument.memberValue?_toJson (v : Value)
    : memberValue? v.toJson = if v.isFinite then some v else .none := by
  split
  · next finite => exact memberValue?_of_stands (Value.stands_toJson finite)
  · next infinite =>
      cases v with
      | number | text => exact absurd rfl infinite
      | float x =>
          have written : Value.toJson (.float x) = .null := if_neg infinite
          rw [written]
          rfl

theorem Value.distinct_toJson (v : Value) : v.toJson.Distinct := by
  cases v with
  | number | text => trivial
  | float x =>
      rw [toJson]
      split <;> trivial

theorem Value.depth_toJson (v : Value) : v.toJson.depth = 0 := by
  cases v with
  | number | text => rfl
  | float x =>
      rw [toJson]
      split <;> rfl

theorem Value.exact_of_mem_numbers {v : Value} (whole : ∀ x, v ≠ .float x) {n : Number}
    (within : n ∈ v.toJson.numbers)
    : n.Exact := by
  cases v with
  | float x => exact absurd rfl (whole x)
  | text => cases within
  | number i =>
      obtain rfl := List.mem_singleton.mp within
      have high : i.toInt < UInt64.size := Int.lt_trans i.toInt_lt (by decide)
      exact .integer i.minValue_le_toInt high

-----------------------------------------------------------------------------------------
-- Members
-----------------------------------------------------------------------------------------

/-- Requires the entries to have the names of the members, in their order, and the values that these
stand for.
-/
def StandEach (members : List (String × Json)) (entries : List (String × Value)) : Prop :=
  List.Forall₂ (fun member entry => entry.1 = member.1 ∧ Stands member.2 entry.2) members entries

namespace Bindings

variable {members : List (String × Json)} {entries : List (String × Value)}

theorem member?_eq_some_iff {member : String × Json} {entry : String × Value}
    : member? Value.ofJson? member = some entry ↔
      entry.1 = member.1 ∧ Stands member.2 entry.2 := by
  obtain ⟨name, value⟩ := entry
  rw [member?, Option.map_eq_some_iff, ← Value.ofJson?_eq_some_iff]
  simp [and_comm, eq_comm]

theorem mapM_member?_eq_some_iff
    : members.mapM (member? Value.ofJson?) = some entries ↔ StandEach members entries := by
  induction members generalizing entries with
  | nil => simp [StandEach, eq_comm]
  | cons member members ih =>
      rw [List.mapM_cons, StandEach, List.forall₂_cons_left_iff]
      simp only [Option.bind_eq_bind, Option.bind_eq_some_iff, Option.pure_def, Option.some_inj,
        ih, member?_eq_some_iff]
      constructor
      · rintro ⟨entry, first, rest, more, rfl⟩
        exact ⟨entry, rest, first, more, rfl⟩
      · rintro ⟨entry, rest, first, more, rfl⟩
        exact ⟨entry, first, rest, more, rfl⟩

theorem filterMap_member?_of_standEach (h : StandEach members entries)
    : members.filterMap (member? Argument.memberValue?) = entries := by
  induction h with
  | nil => rfl
  | @cons member entry members entries first more ih =>
      obtain ⟨name, value⟩ := member
      obtain ⟨rfl, stands⟩ := first
      have read : member? Argument.memberValue? (entry.1, value) = some entry := by
        rw [member?, Argument.memberValue?_of_stands stands]
        rfl
      rw [List.filterMap_cons_some read, ih]

theorem exists_standEach_iff
    : (∃ entries, StandEach members entries) ↔ ∀ member ∈ members, ∃ v, Stands member.2 v := by
  induction members with
  | nil => exact ⟨fun _ => List.forall_mem_nil _, fun _ => ⟨[], .nil⟩⟩
  | cons member members ih =>
      rw [List.forall_mem_cons, ← ih]
      constructor
      · rintro ⟨entries, stand⟩
        obtain ⟨entry, rest, first, more, -⟩ := List.forall₂_cons_left_iff.mp stand
        exact ⟨⟨entry.2, first.2⟩, rest, more⟩
      · rintro ⟨⟨v, stands⟩, rest, more⟩
        exact ⟨(member.1, v) :: rest, .cons ⟨rfl, stands⟩ more⟩

/-- Bindings are read exactly if every member stands for a value. -/
theorem ofMembers?_eq_some_iff {b : Bindings}
    : ofMembers? members = some b ↔ ∃ entries, StandEach members entries ∧ ofList entries = b := by
  simp only [ofMembers?, Option.map_eq_some_iff, mapM_member?_eq_some_iff]

theorem exists_ofMembers?_iff
    : (∃ b, ofMembers? members = some b) ↔ ∀ member ∈ members, ∃ v, Stands member.2 v := by
  rw [← exists_standEach_iff]
  constructor
  · rintro ⟨b, read⟩
    obtain ⟨entries, stand, -⟩ := ofMembers?_eq_some_iff.mp read
    exact ⟨entries, stand⟩
  · rintro ⟨entries, stand⟩
    exact ⟨ofList entries, ofMembers?_eq_some_iff.mpr ⟨entries, stand, rfl⟩⟩

/-- What is read as bindings stands for the same bindings as an argument. -/
theorem ofJson_of_ofMembers? {b : Bindings} (read : ofMembers? members = some b)
    : Argument.ofJson (.object members) = .bindings b := by
  obtain ⟨entries, stand, rfl⟩ := ofMembers?_eq_some_iff.mp read
  rw [Argument.ofJson, filterMap_member?_of_standEach stand]

/-- What a text is read as are the bindings of the object that it is: since every member was admitted,
all of them stand for values.
-/
theorem exists_members_of_parse {text : String} {b : Bindings} (read : parse text = .ok b)
    : ∃ members, Json.parse text = .ok (.object members) ∧ ofMembers? members = some b := by
  obtain ⟨members, checked, rfl⟩ := Json.exists_of_map_eq_ok read
  obtain ⟨unchecked, admitted⟩ := Json.parse_of_parseObject checked
  have stand : ∀ member ∈ members, ∃ v, Stands member.2 v := by
    intro member listed
    obtain ⟨v, found⟩ := Option.isSome_iff_exists.mp (admitted member listed)
    exact ⟨v, Value.ofJson?_eq_some_iff.mp found⟩
  obtain ⟨b, found⟩ := exists_ofMembers?_iff.mpr stand
  exact ⟨members, unchecked, by rw [found, Option.getD_some]⟩

-----------------------------------------------------------------------------------------
-- Written bindings
-----------------------------------------------------------------------------------------

theorem toJson_eq (b : Bindings)
    : b.toJson = .object (b.entries.map fun entry => (entry.1, entry.2.toJson)) := rfl

/-- As an argument, written bindings are those that could be written. -/
theorem ofJson_toJson (b : Bindings)
    : Argument.ofJson b.toJson = .bindings (ofList (b.entries.filter (·.2.isFinite))) := by
  have kept : (member? Argument.memberValue? ∘ fun entry => (entry.1, entry.2.toJson)) =
      Option.guard (·.2.isFinite) := by
    funext entry
    rw [Function.comp_apply, member?, Argument.memberValue?_toJson, Option.guard]
    split <;> rfl
  rw [toJson_eq, Argument.ofJson, List.filterMap_map, kept, List.filterMap_eq_filter]

theorem ofJson_toJson_eq_iff {b : Bindings}
    : Argument.ofJson b.toJson = .bindings b ↔ ∀ entry ∈ b.entries, entry.2.isFinite := by
  have distinct : Ordered.Distinct (b.entries.filter (·.2.isFinite)) :=
    (List.filter_sublist.map Prod.fst).nodup b.distinct
  rw [ofJson_toJson, Argument.bindings.injEq, ← List.filter_eq_self]
  constructor
  · intro same
    have collected : Ordered.collect (b.entries.filter (·.2.isFinite)) = b.entries :=
      congrArg entries same
    rwa [Ordered.collect_eq_self distinct] at collected
  · intro all
    rw [all, ofList_entries]

theorem ofMembers?_toJson {b : Bindings} (finite : ∀ entry ∈ b.entries, entry.2.isFinite)
    : ofMembers? (Json.members b.toJson) = some b := by
  refine ofMembers?_eq_some_iff.mpr ⟨b.entries, ?_, ofList_entries b⟩
  rw [toJson_eq, Json.members, StandEach, List.forall₂_map_left_iff, List.forall₂_same]
  intro entry member
  exact ⟨rfl, Value.stands_toJson (finite entry member)⟩

/-- Bindings of integers and texts are read back from their text. -/
theorem parse_compact_toJson {b : Bindings} (whole : ∀ entry ∈ b.entries, ∀ x, entry.2 ≠ .float x)
    : parse b.toJson.compact = .ok b := by
  have finite : ∀ entry ∈ b.entries, entry.2.isFinite := by
    intro entry bound
    cases value : entry.2 with
    | float x => exact absurd value (whole entry bound x)
    | number | text => rfl
  have distinct : b.toJson.Distinct := by
    rw [toJson_eq]
    refine ⟨?_, Json.distinctMembers_iff.mpr (List.forall_mem_map.mpr fun entry _ => ?_)⟩
    · rw [Ordered.Distinct, List.map_map]
      exact b.distinct
    · exact entry.2.distinct_toJson
  have exact : ∀ n ∈ b.toJson.numbers, n.Exact := by
    intro n within
    obtain ⟨member, listed, number⟩ := Json.mem_numbers_object.mp within
    obtain ⟨entry, bound, rfl⟩ := List.mem_map.mp listed
    exact Value.exact_of_mem_numbers (whole entry bound) number
  have shallow : b.toJson.depth ≤ Json.maxDepth := by
    rw [toJson_eq]
    refine Json.depth_object_le_iff.mpr (List.forall_mem_map.mpr fun entry _ => ?_)
    rw [entry.2.depth_toJson]
    exact Nat.zero_le _
  have read := ofMembers?_toJson finite
  have admitted : Json.AllAdmitted (fun value => (Value.ofJson? value).isSome)
      (Json.members b.toJson) := by
    intro member listed
    obtain ⟨v, stands⟩ := exists_ofMembers?_iff.mp ⟨b, read⟩ member listed
    exact Option.isSome_of_eq_some (Value.ofJson?_eq_some_iff.mpr stands)
  have parsed : Json.parseObject (fun value => (Value.ofJson? value).isSome) b.toJson.compact =
      .ok (Json.members b.toJson) :=
    Json.parseObject_compact_of_admitted admitted distinct exact shallow
  rw [parse, parsed]
  exact congrArg (fun found => Except.ok (found.getD empty)) read

-----------------------------------------------------------------------------------------
-- Both readers
-----------------------------------------------------------------------------------------

theorem normalize_ofJson_number (n : Number)
    : (Argument.ofJson (.number n)).normalize =
      (Argument.ofJson (.object [("count", .number n), ("value", .number n)])).normalize := by
  have long : (Argument.ofJson (.object [("count", .number n), ("value", .number n)])).normalize =
      some (ofList [("count", .ofNumber n), ("value", .ofNumber n)]) := rfl
  rw [long, Argument.ofJson]
  cases Value.ofNumber n <;> rfl

/-- Bindings are read from an object exactly if all members are numbers and strings. They are what the
members stand for, in their order, and the object stands for the same bindings as an argument; so does
the object in a text that is read as bindings. Written bindings are read back as long as they can be
written, and only then are they what they stand for as an argument. A number or a string by itself
stands for the bindings that the object with its two names stands for.
-/
theorem readers_agree
    : (∀ members,
        (∃ b, ofMembers? members = some b) ↔
          ∀ member ∈ members, (∃ n, member.2 = .number n) ∨ ∃ s, member.2 = .string s)
      ∧ (∀ members b,
          ofMembers? members = some b →
            (∃ entries, StandEach members entries ∧ b = ofList entries)
              ∧ Argument.ofJson (.object members) = .bindings b)
      ∧ (∀ text b,
          parse text = .ok b →
            ∃ value, Json.parse text = .ok value ∧ Argument.ofJson value = .bindings b)
      ∧ (∀ b : Bindings,
          (∀ entry ∈ b.entries, entry.2.isFinite) → ofMembers? (Json.members b.toJson) = some b)
      ∧ (∀ b : Bindings,
          Argument.ofJson b.toJson = .bindings b ↔ ∀ entry ∈ b.entries, entry.2.isFinite)
      ∧ (∀ n,
          (Argument.ofJson (.number n)).normalize =
            (Argument.ofJson (.object [("count", .number n), ("value", .number n)])).normalize)
      ∧ ∀ s,
          (Argument.ofJson (.string s)).normalize =
            (Argument.ofJson (.object [("value", .string s), ("name", .string s)])).normalize := by
  refine ⟨?_, ?_, ?_, fun b => ofMembers?_toJson, fun b => ofJson_toJson_eq_iff,
    normalize_ofJson_number, fun s => rfl⟩
  · intro members
    simp only [exists_ofMembers?_iff, exists_stands_iff]
  · intro members b read
    obtain ⟨entries, stand, same⟩ := ofMembers?_eq_some_iff.mp read
    exact ⟨⟨entries, stand, same.symm⟩, ofJson_of_ofMembers? read⟩
  · intro text b read
    obtain ⟨members, parsed, found⟩ := exists_members_of_parse read
    exact ⟨.object members, parsed, ofJson_of_ofMembers? found⟩

/-- An integer beyond 64 bits becomes a floating-point number for both, the least one of 64 bits stays
an integer, and a floating-point number without fraction does not become one. A text of an integer
and a string is read as bindings.
-/
theorem readers_agree_on_numbers
    : let members : List (String × Json) :=
        [("big", .number (.integer 9223372036854775808)),
          ("low", .number (.integer (-9223372036854775808))), ("whole", .number (.float 2.0)),
          ("name", .string "x")]
      let b := ofList
        [("big", .float (Float.ofInt 9223372036854775808)), ("low", .number Int64.minValue),
          ("whole", .float 2.0), ("name", .text "x")]
      let text := "\x7b\"low\":-9223372036854775808,\"name\":\"x\"\x7d"
      let c := ofList [("low", .number Int64.minValue), ("name", .text "x")]
      ofMembers? members = some b
        ∧ Argument.ofJson (.object members) = .bindings b
        ∧ (∀ entry ∈ b.entries, entry.2.isFinite)
        ∧ Argument.ofJson b.toJson = .bindings b
        ∧ ofMembers? (Json.members b.toJson) = some b
        ∧ parse text = .ok c
        ∧ ∃ value, Json.parse text = .ok value ∧ Argument.ofJson value = .bindings c := by
  intro members b text c
  obtain ⟨-, agree, parsed, back, written, -, -⟩ := readers_agree
  have read : ofMembers? members = some b := by rfl
  have finite : ∀ entry ∈ b.entries, entry.2.isFinite := by decide
  have compact : c.toJson.compact = text := by rfl
  have entries : c.entries = [("low", .number Int64.minValue), ("name", .text "x")] := rfl
  have whole : ∀ entry ∈ c.entries, ∀ x, entry.2 ≠ .float x := by simp [entries]
  have found : parse text = .ok c := compact ▸ parse_compact_toJson whole
  exact ⟨read, (agree members b read).2, finite, (written b).mpr finite, back b finite, found,
    parsed text c found⟩

end Bindings

end Phrasebook
