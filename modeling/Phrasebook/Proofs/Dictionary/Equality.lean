import Phrasebook.Proofs.Dictionary.Paths
import Phrasebook.Proofs.Dictionary.Values
import Phrasebook.Proofs.Json.Equality
import Phrasebook.Proofs.Translation.Agreement

/-! Equality of dictionaries up to the order of members is an equivalence, and equal dictionaries
translate every key alike. Each segment of a key leads to equal entries in both, so the key leads to
the same template; and the routes to templates, of which no two are the same, are the same in both.
-/

namespace Phrasebook

namespace Entry

-----------------------------------------------------------------------------------------
-- What an entry is equal to
-----------------------------------------------------------------------------------------

theorem eq_text_of_same {template : String} {b : Entry} (h : (text template).same b = true)
    : b = text template := by
  cases b with
  | text other =>
      rw [same, beq_iff_eq] at h
      rw [h]
  | _ => contradiction

theorem exists_nested_of_same {entries : List (String × Entry)} {b : Entry}
    (h : (nested entries).same b = true)
    : ∃ others, b = nested others := by
  cases b with
  | nested others => exact ⟨others, rfl⟩
  | _ => contradiction

theorem exists_other_of_same {value : Json} {b : Entry} (h : (other value).same b = true)
    : ∃ found, b = other found ∧ value.same found = true := by
  cases b with
  | other found => exact ⟨found, rfl, h⟩
  | _ => contradiction

theorem sameEntries_iff {entries others : List (String × Entry)}
    : sameEntries entries others = true ↔
      ∀ pair ∈ entries, ∃ other,
        others.lookup pair.1 = some other ∧ pair.2.same other = true := by
  induction entries with
  | nil => simp [sameEntries]
  | cons pair entries ih =>
      rw [sameEntries, Bool.and_eq_true, ih, List.forall_mem_cons]
      refine and_congr ?_ Iff.rfl
      cases others.lookup pair.1 <;> simp

/-- Levels are equal if the entries under each segment are. -/
theorem same_nested_iff {entries others : List (String × Entry)}
    (distinct : Ordered.Distinct entries) (distinct' : Ordered.Distinct others)
    : (nested entries).same (nested others) = true ↔
      Ordered.Matches (fun a b : Entry => a.same b = true) entries others := by
  rw [same, Bool.and_eq_true, beq_iff_eq, sameEntries_iff]
  exact (Ordered.matches_iff (R := fun a b : Entry => a.same b = true) distinct distinct').symm

/-- Requires different segments at each level, and proper values where nothing resolves. -/
structure Proper (entry : Entry) : Prop where
  segments : entry.Distinct
  values : ∀ value ∈ entry.values, value.Proper

theorem proper_nested_iff {entries : List (String × Entry)}
    : (nested entries).Proper ↔
      Ordered.Distinct entries ∧ ∀ pair ∈ entries, pair.2.Proper := by
  constructor
  · intro proper
    obtain ⟨names, below⟩ := distinct_nested_iff.mp proper.segments
    have values := forall_mem_values_nested.mp proper.values
    exact ⟨names, fun pair member => ⟨below pair member, values pair member⟩⟩
  · rintro ⟨names, below⟩
    refine ⟨distinct_nested_iff.mpr ⟨names, fun pair member => (below pair member).segments⟩, ?_⟩
    exact forall_mem_values_nested.mpr fun pair member => (below pair member).values

theorem proper_other_iff {value : Json} : (other value).Proper ↔ value.Proper := by
  constructor
  · exact fun proper => proper.values value (by simp [values])
  · exact fun proper => ⟨trivial, by simpa [values] using proper⟩

-----------------------------------------------------------------------------------------
-- The three laws
-----------------------------------------------------------------------------------------

theorem same_self {entry : Entry} (proper : entry.Proper) : entry.same entry = true := by
  induction entry using Entry.induction with
  | text template => simp [same]
  | nested entries ih =>
      obtain ⟨names, below⟩ := proper_nested_iff.mp proper
      refine (same_nested_iff names names).mpr (Ordered.matches_self fun pair member => ?_)
      exact ih pair member (below pair member)
  | other value => exact Json.same_self (proper_other_iff.mp proper)

theorem same_symm {a b : Entry} (proper : a.Proper) (proper' : b.Proper) (h : a.same b = true)
    : b.same a = true := by
  induction a using Entry.induction generalizing b with
  | text template =>
      obtain rfl := eq_text_of_same h
      exact h
  | nested entries ih =>
      obtain ⟨others, rfl⟩ := exists_nested_of_same h
      obtain ⟨names, below⟩ := proper_nested_iff.mp proper
      obtain ⟨names', below'⟩ := proper_nested_iff.mp proper'
      rw [same_nested_iff names names'] at h
      rw [same_nested_iff names' names]
      refine h.turn fun pair member other member' => ?_
      exact ih pair member (below pair member) (below' other member')
  | other value =>
      obtain ⟨found, rfl, related⟩ := exists_other_of_same h
      exact Json.same_symm (proper_other_iff.mp proper).names (proper_other_iff.mp proper').names
        related

theorem same_trans {a b c : Entry} (proper : a.Proper) (proper' : b.Proper) (proper'' : c.Proper)
    (first : a.same b = true) (second : b.same c = true)
    : a.same c = true := by
  induction a using Entry.induction generalizing b c with
  | text template =>
      obtain rfl := eq_text_of_same first
      exact second
  | nested entries ih =>
      obtain ⟨others, rfl⟩ := exists_nested_of_same first
      obtain ⟨more, rfl⟩ := exists_nested_of_same second
      obtain ⟨names, below⟩ := proper_nested_iff.mp proper
      obtain ⟨names', below'⟩ := proper_nested_iff.mp proper'
      obtain ⟨names'', below''⟩ := proper_nested_iff.mp proper''
      rw [same_nested_iff names names'] at first
      rw [same_nested_iff names' names''] at second
      rw [same_nested_iff names names'']
      refine first.chain second fun pair member other member' last member'' => ?_
      exact ih pair member (below pair member) (below' other member') (below'' last member'')
  | other value =>
      obtain ⟨middle, rfl, here⟩ := exists_other_of_same first
      obtain ⟨last, rfl, there⟩ := exists_other_of_same second
      exact Json.same_trans (proper_other_iff.mp proper).names (proper_other_iff.mp proper').names
        (proper_other_iff.mp proper'').names here there

-----------------------------------------------------------------------------------------
-- The order of members
-----------------------------------------------------------------------------------------

/-- The second entry is the first one with one level in another order, its own or one below it, or
with one object in another order inside a value that never resolves.
-/
inductive Shuffles : Entry → Entry → Prop where
  | level {entries others : List (String × Entry)} (perm : entries.Perm others)
    : Shuffles (nested entries) (nested others)
  | entry {entries : List (String × Entry)} {segment : String} {entry other : Entry}
      (found : entries.lookup segment = some entry) (within : Shuffles entry other)
    : Shuffles (nested entries) (nested (Ordered.insert segment other entries))
  | value {value found : Json} (within : value.Shuffles found)
    : Shuffles (other value) (other found)

/-- Equality does not see the order of members, by induction on where they stand. -/
theorem Shuffles.same {a b : Entry} (shuffles : a.Shuffles b) (proper : a.Proper)
    : a.same b = true := by
  induction shuffles with
  | @level entries others perm =>
      obtain ⟨names, below⟩ := proper_nested_iff.mp proper
      rw [same_nested_iff names ((perm.map Prod.fst).nodup_iff.mp names)]
      exact Ordered.matches_perm names perm fun pair member => same_self (below pair member)
  | @entry entries segment entry other found within ih =>
      obtain ⟨names, below⟩ := proper_nested_iff.mp proper
      rw [same_nested_iff names (names.insert segment other)]
      refine Ordered.matches_insert found ?_ fun pair member => same_self (below pair member)
      exact ih (below _ (Ordered.mem_of_lookup found))
  | value within => exact within.same (proper_other_iff.mp proper)

-----------------------------------------------------------------------------------------
-- Equal entries are followed alike
-----------------------------------------------------------------------------------------

/-- Segments lead to the same template from equal entries, by induction on the segments. -/
theorem follow_eq_of_same {a b : Entry} (distinct : a.Distinct) (distinct' : b.Distinct)
    (h : a.same b = true) (route : List String)
    : a.follow route = b.follow route := by
  induction route generalizing a b with
  | nil =>
      cases a with
      | text template => rw [eq_text_of_same h]
      | nested entries =>
          obtain ⟨others, rfl⟩ := exists_nested_of_same h
          rfl
      | other value =>
          obtain ⟨found, rfl, -⟩ := exists_other_of_same h
          rfl
  | cons segment rest ih =>
      cases a with
      | text template => rw [eq_text_of_same h]
      | nested entries =>
          obtain ⟨others, rfl⟩ := exists_nested_of_same h
          obtain ⟨names, below⟩ := distinct_nested_iff.mp distinct
          obtain ⟨names', below'⟩ := distinct_nested_iff.mp distinct'
          have related := (same_nested_iff names names').mp h segment
          rw [follow, follow]
          cases here : entries.lookup segment with
          | none => rw [related.eq_none_iff.mp here]
          | some entry =>
              obtain ⟨other, there, same⟩ := related.exists_of_eq_some here
              rw [there]
              exact ih (below _ (Ordered.mem_of_lookup here))
                (below' _ (Ordered.mem_of_lookup there)) same
      | other value =>
          obtain ⟨found, rfl, -⟩ := exists_other_of_same h
          rfl

end Entry

namespace Dictionary

/-- Requires different segments at each level, and proper values where nothing resolves. -/
def Proper (d : Dictionary) : Prop :=
  (Entry.nested d.entries).Proper

/-- A proper dictionary with its segments, which are different. -/
def Proper.toDistinct {d : Dictionary} (proper : d.Proper) : DistinctDictionary :=
  ⟨d, proper.segments⟩

/-- The second dictionary is the first one with one level, or one object inside a value, in another
order.
-/
def Shuffles (d e : Dictionary) : Prop :=
  (Entry.nested d.entries).Shuffles (.nested e.entries)

-----------------------------------------------------------------------------------------
-- The templates of a dictionary
-----------------------------------------------------------------------------------------

/-- The route to a leaf and its template, if it has one. -/
def template? : List String × Entry → Option (List String × String)
  | (route, .text template) => some (route, template)
  | _ => none

/-- The templates of d, depth first, with their routes. -/
def templates (d : Dictionary) : List (List String × String) :=
  (Entry.routesBelow d.entries).filterMap template?

theorem mem_templates_iff {d : DistinctDictionary} {route : List String} {template : String}
    : (route, template) ∈ d.templates ↔
      (Entry.nested d.entries).follow route = some template := by
  rw [Entry.follow_eq_some_iff d.distinct, templates, List.mem_filterMap]
  constructor
  · rintro ⟨⟨route, leaf⟩, member, eq⟩
    cases leaf with
    | text other =>
        obtain ⟨rfl, rfl⟩ := Prod.mk.inj (Option.some.inj eq)
        exact member
    | _ => contradiction
  · intro member
    exact ⟨_, member, rfl⟩

theorem nodup_templates (d : DistinctDictionary) : d.templates.Nodup := by
  refine (Entry.nodup_routes _ d.distinct).of_map.filterMap ?_
  rintro ⟨route, leaf⟩ ⟨other, leaf'⟩ pair here there
  cases leaf with
  | text template =>
      cases leaf' with
      | text template' =>
          cases here
          cases there
          rfl
      | _ => contradiction
  | _ => contradiction

/-- The keys of a dictionary are the paths along the routes of its templates. -/
theorem leafKeys_eq (d : Dictionary)
    : d.leafKeys = d.templates.map fun (route, _) => Entry.pathAlong "" route := by
  rw [leafKeys, leaves_eq, templates, List.filterMap_map, List.map_filterMap]
  refine List.filterMap_congr fun pair _ => ?_
  obtain ⟨route, leaf⟩ := pair
  cases leaf <;> rfl

-----------------------------------------------------------------------------------------
-- Equal dictionaries
-----------------------------------------------------------------------------------------

section

variable (d e : DistinctDictionary) (equal : d.same e.toDictionary = true)

include equal

theorem agrees_of_same : d.Agrees e.toDictionary := by
  intro key
  rw [lookup, lookup, Entry.follow_eq_of_same d.distinct e.distinct equal]

theorem leafKeys_perm_of_same : d.leafKeys.Perm e.leafKeys := by
  have templates : d.templates.Perm e.templates := by
    refine (List.perm_ext_iff_of_nodup (nodup_templates d) (nodup_templates e)).mpr
      fun (route, template) => ?_
    rw [mem_templates_iff, mem_templates_iff,
      Entry.follow_eq_of_same d.distinct e.distinct equal]
  rw [leafKeys_eq, leafKeys_eq]
  exact templates.map _

end

/-- Equality of dictionaries is an equivalence that does not see the order of members at any depth,
and equal dictionaries agree on every key, on every text and, up to their order, on the keys of
their templates.
-/
theorem same_ignores_order
    : Equivalence (fun d e : {d : Dictionary // d.Proper} => d.val.same e.val = true)
      ∧ (∀ d e : Dictionary, d.Proper → d.Shuffles e → d.same e = true)
      ∧ ∀ d e : {d : Dictionary // d.Proper}, d.val.same e.val = true →
          (∀ key, d.val.lookup key = e.val.lookup key)
            ∧ (∀ key argument, d.val.translate key argument = e.val.translate key argument)
            ∧ (∀ key count argument,
                d.val.translatePlural key count argument = e.val.translatePlural key count argument)
            ∧ d.val.leafKeys.Perm e.val.leafKeys := by
  refine ⟨⟨?_, ?_, ?_⟩, ?_, ?_⟩
  · exact fun d => Entry.same_self d.property
  · exact fun {d e} => Entry.same_symm d.property e.property
  · exact fun {d e f} => Entry.same_trans d.property e.property f.property
  · exact fun d e proper shuffles => shuffles.same proper
  · intro d e equal
    have agree := agrees_of_same d.property.toDistinct e.property.toDistinct equal
    have keys := leafKeys_perm_of_same d.property.toDistinct e.property.toDistinct equal
    exact ⟨agree, agree.translate_eq, agree.translatePlural_eq, keys⟩

/-- Two dictionaries that differ in the order of every level, and of an object in an array. -/
theorem reordered_agree
    : let d : Dictionary :=
        ⟨[("a", .text "x"),
          ("b", .nested [("c", .text "y"), ("d", .text "z"),
            ("e", .other (.array [.object [("f", .null), ("g", .bool true)]]))])]⟩
      let e : Dictionary :=
        ⟨[("b", .nested [("e", .other (.array [.object [("g", .bool true), ("f", .null)]])),
            ("d", .text "z"), ("c", .text "y")]),
          ("a", .text "x")]⟩
      d.same e = true ∧ d.lookup "b.d" = e.lookup "b.d"
        ∧ d.leafKeys.Perm e.leafKeys ∧ d.leafKeys ≠ e.leafKeys := by
  intro d e
  have proper : d.Proper := by
    refine ⟨by decide, fun value held => ?_⟩
    obtain rfl := List.mem_singleton.mp held
    exact ⟨⟨⟨by decide, trivial, trivial, trivial⟩, trivial⟩, List.not_mem_nil⟩
  have proper' : e.Proper := by
    refine ⟨by decide, fun value held => ?_⟩
    obtain rfl := List.mem_singleton.mp held
    exact ⟨⟨⟨by decide, trivial, trivial, trivial⟩, trivial⟩, List.not_mem_nil⟩
  have equal : d.same e = true := by decide
  obtain ⟨found, -, -, keys⟩ := same_ignores_order.2.2 ⟨d, proper⟩ ⟨e, proper'⟩ equal
  exact ⟨equal, found "b.d", keys, by decide⟩

end Dictionary

end Phrasebook
