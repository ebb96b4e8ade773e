import Phrasebook.Coverage
import Phrasebook.Proofs.Lint.Segments

/-! Complete coverage and what keys lead to. Languages are compared by the paths of their leaves, so
a complete one has a template at every key of its source exactly if its own paths lead to templates.
-/

namespace Phrasebook

open Phrasebook.Text

theorem Coverage.isComplete_compare_iff {language : String} {source translated : List String}
    : (compare language source translated).isComplete = true ↔
      ∀ key ∈ source, key ∈ translated := by
  simp [isComplete, compare, without, List.filter_eq_nil_iff]

namespace Entry

/-- The entry whose only template is the empty one, at the end of the route. -/
def along : List String → Entry
  | [] => .text ""
  | segment :: rest => .nested [(segment, along rest)]

theorem distinct_along (route : List String) : (along route).Distinct := by
  induction route with
  | nil => trivial
  | cons segment rest ih =>
      refine distinct_nested_iff.mpr ⟨by simp [Ordered.Distinct], ?_⟩
      simpa using ih

theorem routes_along (route : List String) : (along route).routes = [(route, .text "")] := by
  induction route with
  | nil => rfl
  | cons segment rest ih => simp [along, routes, routesBelow, ih]

end Entry

namespace Dictionary

theorem lookup_empty (d : Dictionary) : d.lookup "" = some "" :=
  rfl

theorem head?_ne_point_of_lookup {d : DistinctDictionary}
    (named : "" ∉ d.entries.map Prod.fst) {key : String} (written : key ≠ "")
    (found : d.lookup key ≠ none)
    : key.toList.head? ≠ some '.' := by
  intro pointed
  obtain ⟨template, resolved⟩ := Option.ne_none_iff_exists'.mp found
  obtain ⟨-, first, rest, eq, top⟩ := segments_mem_routes written resolved
  have empty : (segments '.' key).head? = some "" := head?_segments_eq_empty_iff.mpr (.inr pointed)
  rw [eq, List.head?_cons] at empty
  exact named (Option.some.inj empty ▸ top)

/-- Every key that does not start with a point is the only one of some dictionary: the one whose
levels are its segments.
-/
theorem exists_leafKeys_eq_singleton {key : String} (written : key ≠ "")
    (named : key.toList.head? ≠ some '.')
    : ∃ d : DistinctDictionary,
        "" ∉ d.entries.map Prod.fst ∧ d.leafKeys = [key] ∧ d.lookup key ≠ none := by
  have first_named : (segments '.' key).head? ≠ some "" := by
    rw [Ne, head?_segments_eq_empty_iff, not_or]
    exact ⟨written, named⟩
  cases eq : segments '.' key with
  | nil =>
      have joined := intercalate_segments '.' key
      rw [eq] at joined
      exact absurd joined.symm written
  | cons first rest =>
      have present : first ≠ "" := by simpa [eq] using first_named
      let d : DistinctDictionary :=
        ⟨⟨[(first, .along rest)]⟩, Entry.distinct_along (first :: rest)⟩
      have routes : Entry.routesBelow d.entries = [(first :: rest, .text "")] :=
        Entry.routes_along (first :: rest)
      refine ⟨d, by simpa [d] using present.symm, ?_, ?_⟩
      · rw [leafKeys, leaves_eq, routes, ← pathAlong_segments present eq, eq]
        rfl
      · have found : d.lookup key = some "" := by
          rw [lookup_eq_some_iff written, eq, routes]
          exact List.mem_singleton_self _
        simp [found]

/-- Requires every leaf key to lead to a template, apart from those that start with a point. These
are no keys of a dictionary without an empty segment at the top.
-/
def LeafKeysResolve (d : Dictionary) : Prop :=
  ∀ key ∈ d.leafKeys, key.toList.head? ≠ some '.' → d.lookup key ≠ none

/-- Leaf keys lead to templates if lint calls no key unreachable and no segment at the top is empty.
-/
theorem leafKeysResolve_of_silent {d : DistinctDictionary}
    (silent : ∀ key, Warning.unreachable key ∉ d.lint) (named : "" ∉ d.entries.map Prod.fst)
    : d.LeafKeysResolve := by
  intro key listed _
  obtain ⟨template, member⟩ := mem_leafKeys_iff.mp listed
  have undotted := silent_iff_undotted.mp silent
  simp [lookup_of_mem_leaves undotted named member]

end Dictionary

namespace Coverage

open Dictionary

/-- A complete language has a template at every key that has one in the source, whatever the source,
exactly if its own leaf keys lead to templates. They do if lint calls no key unreachable and no
segment at the top is empty. A source has no empty segment at the top either, since the paths below
one are no keys.
-/
theorem complete_resolves_iff (d : DistinctDictionary)
    : ((∀ source : DistinctDictionary, "" ∉ source.entries.map Prod.fst →
          ∀ language, (compare language source.leafKeys d.leafKeys).isComplete = true →
            ∀ key, source.lookup key ≠ none → d.lookup key ≠ none) ↔
        d.LeafKeysResolve)
      ∧ ((∀ key, Warning.unreachable key ∉ d.lint) → "" ∉ d.entries.map Prod.fst →
          d.LeafKeysResolve) := by
  refine ⟨⟨?_, ?_⟩, leafKeysResolve_of_silent⟩
  · intro covers key listed pointless
    by_cases written : key = ""
    · subst written
      simp [lookup_empty]
    · obtain ⟨source, named, keys, found⟩ := exists_leafKeys_eq_singleton written pointless
      refine covers source named "" ?_ key found
      rw [isComplete_compare_iff, keys]
      simpa using listed
  · intro resolve source named language complete key found
    by_cases written : key = ""
    · subst written
      simp [lookup_empty]
    · obtain ⟨template, eq⟩ := Option.ne_none_iff_exists'.mp found
      have leaf := mem_leaves_of_lookup named written eq
      have listed := isComplete_compare_iff.mp complete key (mem_leafKeys_iff.mpr ⟨template, leaf⟩)
      exact resolve key listed (head?_ne_point_of_lookup named written found)

/-- A translation with other levels and an empty segment below the top serves its source. -/
theorem complete_resolves_nested
    : let source : Dictionary := ⟨[("a", .nested [("", .text "x"), ("b", .text "y")])]⟩
      let d : Dictionary :=
        ⟨[("c", .text "z"), ("a", .nested [("b", .text "u"), ("", .text "v")])]⟩
      (compare "de" source.leafKeys d.leafKeys).isComplete = true
        ∧ ∀ key, source.lookup key ≠ none → d.lookup key ≠ none := by
  intro source d
  have complete : (compare "de" source.leafKeys d.leafKeys).isComplete = true := by decide
  have clean : d.lint = [] := by decide
  obtain ⟨serves_iff, resolve⟩ := complete_resolves_iff ⟨d, by decide⟩
  have keys := resolve (by simp [clean]) (by decide)
  exact ⟨complete, serves_iff.mpr keys ⟨source, by decide⟩ (by decide) "de" complete⟩

/-- A dotted segment spells a key of the source, and no key leads to its template. -/
theorem complete_with_dotted_segment
    : let source : Dictionary := ⟨[("a", .nested [("b", .text "x")])]⟩
      let d : Dictionary := ⟨[("a.b", .text "y")]⟩
      (compare "de" source.leafKeys d.leafKeys).isComplete = true
        ∧ source.lookup "a.b" = some "x" ∧ d.lookup "a.b" = none := by
  exact ⟨by decide, by decide, by decide⟩

end Coverage

end Phrasebook
