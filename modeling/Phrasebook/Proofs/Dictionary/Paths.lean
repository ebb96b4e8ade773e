import Phrasebook.Proofs.Dictionary.Places
import Phrasebook.Proofs.Text.Parts

/-! The keys of a dictionary and its leaves. Without points in segments and without an empty segment
at the top, the paths of the leaves with templates are exactly the keys that lead to templates.
-/

namespace Phrasebook.Dictionary

open Phrasebook.Text

theorem leaves_eq (d : Dictionary)
    : d.leaves =
      (Entry.routesBelow d.entries).map fun (route, leaf) => (Entry.pathAlong "" route, leaf) :=
  Entry.leavesBelow_eq "" d.entries

theorem lookup_eq_follow (d : Dictionary) {key : String} (written : key ≠ "")
    : d.lookup key = (Entry.nested d.entries).follow (segments '.' key) :=
  if_neg written

theorem mem_leafKeys_iff {d : Dictionary} {key : String}
    : key ∈ d.leafKeys ↔ ∃ template, (key, Entry.text template) ∈ d.leaves := by
  rw [leafKeys, List.mem_filterMap]
  constructor
  · intro listed
    obtain ⟨⟨path, leaf⟩, member, eq⟩ := listed
    cases leaf with
    | text template =>
        obtain rfl : path = key := Option.some.inj eq
        exact ⟨template, member⟩
    | nested | other => contradiction
  · intro leaf
    obtain ⟨template, member⟩ := leaf
    exact ⟨_, member, rfl⟩

theorem leafKeys_sublist (d : Dictionary) : d.leafKeys.Sublist (d.leaves.map Prod.fst) := by
  rw [leafKeys]
  induction d.leaves with
  | nil => exact .slnil
  | cons pair rest ih =>
      obtain ⟨path, leaf⟩ := pair
      cases leaf with
      | text template => exact ih.cons_cons path
      | nested | other => exact ih.cons path

/-- A route from the top leads to a path whose segments are the route, if no segment holds a point
and the first is not empty.
-/
theorem segments_pathAlong {first : String} {rest : List String} (named : first ≠ "")
    (free : ∀ segment ∈ first :: rest, '.' ∉ segment.toList)
    : segments '.' (Entry.pathAlong "" (first :: rest)) = first :: rest := by
  rw [Entry.pathAlong_top named]
  exact segments_intercalate (by simp) free

/-- The path of a route that starts with a segment is written. -/
theorem pathAlong_ne_empty {first : String} (named : first ≠ "") (rest : List String)
    : Entry.pathAlong "" (first :: rest) ≠ "" := by
  rw [Entry.pathAlong_top named]
  intro empty
  have joined := congrArg String.toList empty
  cases rest with
  | nil => exact named (by simpa using empty)
  | cons second rest => simp at joined

/-- The segments of a key lead along it, if the first one is not empty. -/
theorem pathAlong_segments {key first : String} {rest : List String} (named : first ≠ "")
    (eq : segments '.' key = first :: rest)
    : Entry.pathAlong "" (segments '.' key) = key := by
  rw [eq, Entry.pathAlong_top named, ← eq]
  exact intercalate_segments '.' key

/-- In a dictionary without points and without an empty segment at the top, the path of a leaf is
not empty and has the route as its segments.
-/
theorem segments_of_mem_routes {d : Dictionary} (undotted : d.Undotted)
    (named : "" ∉ d.entries.map Prod.fst) {route : List String} {leaf : Entry}
    (member : (route, leaf) ∈ Entry.routesBelow d.entries)
    : segments '.' (Entry.pathAlong "" route) = route ∧ Entry.pathAlong "" route ≠ "" := by
  have free : ∀ segment ∈ route, '.' ∉ segment.toList :=
    Entry.undotted_of_mem_routes undotted member
  obtain ⟨first, rest, entry, rfl, within, -⟩ := Entry.mem_routesBelow_iff.mp member
  have present : first ≠ "" := by
    intro empty
    subst empty
    exact named (List.mem_map_of_mem within)
  exact ⟨segments_pathAlong present free, pathAlong_ne_empty present rest⟩

section

variable {d : DistinctDictionary}

/-- A key leads to a template exactly if its segments are the route to it. -/
theorem lookup_eq_some_iff {key template : String} (written : key ≠ "")
    : d.lookup key = some template ↔
      (segments '.' key, Entry.text template) ∈ Entry.routesBelow d.entries := by
  rw [lookup_eq_follow _ written]
  exact Entry.follow_eq_some_iff d.distinct

/-- The path of a leaf with a template leads to that template. -/
theorem lookup_of_mem_leaves (undotted : d.Undotted) (named : "" ∉ d.entries.map Prod.fst)
    {path template : String} (member : (path, Entry.text template) ∈ d.leaves)
    : d.lookup path = some template := by
  rw [leaves_eq] at member
  obtain ⟨⟨route, leaf⟩, within, eq⟩ := List.mem_map.mp member
  obtain ⟨rfl, rfl⟩ := Prod.mk.inj eq
  obtain ⟨back, written⟩ := segments_of_mem_routes undotted named within
  rwa [lookup_eq_some_iff written, back]

/-- The segments of a key that leads to a template are a route to it, and the first one stands at
the top.
-/
theorem segments_mem_routes {key template : String} (written : key ≠ "")
    (found : d.lookup key = some template)
    : (segments '.' key, Entry.text template) ∈ Entry.routesBelow d.entries
      ∧ ∃ first rest, segments '.' key = first :: rest ∧ first ∈ d.entries.map Prod.fst := by
  have within := (lookup_eq_some_iff written).mp found
  obtain ⟨first, rest, entry, eq, top, -⟩ := Entry.mem_routesBelow_iff.mp within
  exact ⟨within, first, rest, eq, List.mem_map_of_mem top⟩

/-- A key that leads to a template is the path of a leaf with that template. -/
theorem mem_leaves_of_lookup (named : "" ∉ d.entries.map Prod.fst) {key template : String}
    (written : key ≠ "") (found : d.lookup key = some template)
    : (key, Entry.text template) ∈ d.leaves := by
  obtain ⟨within, first, rest, eq, top⟩ := segments_mem_routes written found
  have present : first ≠ "" := fun empty => named (empty ▸ top)
  have joined := pathAlong_segments present eq
  rw [leaves_eq]
  exact List.mem_map.mpr ⟨_, within, Prod.ext joined rfl⟩

/-- The paths of the leaves are pairwise different, since the segments of each are its route. -/
theorem nodup_leaves (undotted : d.Undotted) (named : "" ∉ d.entries.map Prod.fst)
    : (d.leaves.map Prod.fst).Nodup := by
  have paths : d.leaves.map Prod.fst =
      ((Entry.routesBelow d.entries).map Prod.fst).map (Entry.pathAlong "") := by
    rw [leaves_eq, List.map_map, List.map_map]
    rfl
  rw [paths]
  refine (Entry.nodup_routes _ d.distinct).map_on ?_
  intro route here other there same
  obtain ⟨⟨route, leaf⟩, within, rfl⟩ := List.mem_map.mp here
  obtain ⟨⟨other, leaf⟩, within', rfl⟩ := List.mem_map.mp there
  rw [← (segments_of_mem_routes undotted named within).1,
    ← (segments_of_mem_routes undotted named within').1, same]

end

/-- If no segment holds a point and none at the top is empty, the keys of the leaves are pairwise
different, they are the keys that lead to a template, and each template is found at the path of its
leaf.
-/
theorem leafKeys_exact (d : DistinctDictionary) (undotted : d.Undotted)
    (named : "" ∉ d.entries.map Prod.fst)
    : d.leafKeys.Nodup
      ∧ (∀ key, key ≠ "" → (d.lookup key ≠ none ↔ key ∈ d.leafKeys))
      ∧ ∀ path template,
          (path, Entry.text template) ∈ d.leaves → d.lookup path = some template := by
  refine ⟨(nodup_leaves undotted named).sublist d.leafKeys_sublist, ?_, ?_⟩
  · intro key written
    rw [Option.ne_none_iff_exists', mem_leafKeys_iff]
    constructor
    · intro resolves
      obtain ⟨template, found⟩ := resolves
      exact ⟨template, mem_leaves_of_lookup named written found⟩
    · intro leaf
      obtain ⟨template, member⟩ := leaf
      exact ⟨template, lookup_of_mem_leaves undotted named member⟩
  · intro path template member
    exact lookup_of_mem_leaves undotted named member

/-- Below the top, empty segments lead to templates as well. -/
theorem lookup_empty_segment
    : (Dictionary.mk [("a", .nested [("", .text "x"), ("b", .nested [("", .text "y")])])]).lookup
        "a.b." = some "y" := by
  have exact_paths := leafKeys_exact
    ⟨⟨[("a", .nested [("", .text "x"), ("b", .nested [("", .text "y")])])]⟩, by decide⟩
    (by decide) (by decide)
  refine exact_paths.2.2 "a.b." "y" ?_
  simp [leaves, Entry.leavesBelow, Entry.leavesAt, childPath]

end Phrasebook.Dictionary
