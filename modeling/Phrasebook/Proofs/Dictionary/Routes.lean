import Phrasebook.Dictionary.Lookup
import Phrasebook.Proofs.Dictionary.Levels

/-! The routes to the leaves of an entry, which are the segments that lead there one by one. The
path of a leaf is its route joined, and following a route to a template finds that template.
-/

namespace Phrasebook.Entry

mutual

/-- The leaves of an entry, depth first, with their routes. -/
def routes : Entry → List (List String × Entry)
  | .text template => [([], .text template)]
  | .nested entries => routesBelow entries
  | .other value => [([], .other value)]

/-- The leaves of a level, depth first, with their routes. -/
def routesBelow : List (String × Entry) → List (List String × Entry)
  | [] => []
  | (segment, entry) :: rest =>
      (routes entry).map (fun (route, leaf) => (segment :: route, leaf)) ++ routesBelow rest

end

/-- The path that a route leads to from the given path. -/
def pathAlong (path : String) (route : List String) : String :=
  route.foldl childPath path

-----------------------------------------------------------------------------------------
-- Paths are routes joined
-----------------------------------------------------------------------------------------

mutual

/-- The leaves of an entry stand at the paths along their routes, by mutual induction with the
levels below it.
-/
theorem leavesAt_eq (path : String) (entry : Entry)
    : leavesAt path entry = entry.routes.map fun (route, leaf) => (pathAlong path route, leaf) := by
  cases entry with
  | text template => rfl
  | nested entries => exact leavesBelow_eq path entries
  | other value => rfl
termination_by sizeOf entry

theorem leavesBelow_eq (path : String) (entries : List (String × Entry))
    : leavesBelow path entries =
      (routesBelow entries).map fun (route, leaf) => (pathAlong path route, leaf) := by
  match entries with
  | [] => rfl
  | (segment, entry) :: rest =>
      rw [leavesBelow, routesBelow, leavesAt_eq (childPath path segment) entry,
        leavesBelow_eq path rest, List.map_append, List.map_map]
      rfl
termination_by sizeOf entries

end

/-- Below a path that is written, a route is joined behind it with points, by induction on the
route.
-/
theorem pathAlong_eq_intercalate {path : String} (written : path ≠ "") (route : List String)
    : pathAlong path route = ".".intercalate (path :: route) := by
  induction route generalizing path with
  | nil => simp [pathAlong]
  | cons segment rest ih =>
      have child : childPath path segment = path ++ "." ++ segment := if_neg written
      have still : childPath path segment ≠ "" := by
        intro empty
        rw [child] at empty
        simpa using congrArg String.toList empty
      rw [pathAlong, List.foldl_cons, ← pathAlong, ih still, child, String.append_assoc,
        String.intercalate_cons_append, String.intercalate_cons_append,
        String.intercalate_cons_cons, String.append_assoc]

theorem pathAlong_top {segment : String} (named : segment ≠ "") (rest : List String)
    : pathAlong "" (segment :: rest) = ".".intercalate (segment :: rest) :=
  pathAlong_eq_intercalate named rest

/-- Leading empty segments leave no trace in a path, by induction on the route. -/
theorem pathAlong_dropWhile (route : List String)
    : pathAlong "" (route.dropWhile (· = "")) = pathAlong "" route := by
  induction route with
  | nil => rfl
  | cons segment rest ih =>
      by_cases empty : segment = ""
      · subst empty
        rw [List.dropWhile_cons_of_pos (by simp), ih]
        rfl
      · rw [List.dropWhile_cons_of_neg (by simpa using empty)]

/-- The path along a route from the top is the route joined without the empty segments at its start.
-/
theorem pathAlong_top_eq (route : List String)
    : pathAlong "" route = ".".intercalate (route.dropWhile (· = "")) := by
  rw [← pathAlong_dropWhile]
  cases eq : route.dropWhile (· = "") with
  | nil => rfl
  | cons first rest =>
      have stops := List.head?_dropWhile_not (· = "") route
      have named : first ≠ "" := by simpa [eq] using stops
      exact pathAlong_top named rest

-----------------------------------------------------------------------------------------
-- Routes are followed
-----------------------------------------------------------------------------------------

/-- A route below a level starts with one of its segments and goes on below the entry there, by
induction on the entries.
-/
theorem mem_routesBelow_iff {route : List String} {leaf : Entry}
    {entries : List (String × Entry)}
    : (route, leaf) ∈ routesBelow entries ↔
      ∃ segment rest entry,
        route = segment :: rest ∧ (segment, entry) ∈ entries ∧ (rest, leaf) ∈ entry.routes := by
  induction entries with
  | nil => simp [routesBelow]
  | cons pair entries ih =>
      obtain ⟨first, entry⟩ := pair
      rw [routesBelow, List.mem_append, List.mem_map, ih]
      constructor
      · intro listed
        rcases listed with ⟨⟨rest, found⟩, member, eq⟩ | ⟨segment, rest, below, eq, within, member⟩
        · obtain ⟨rfl, rfl⟩ := Prod.mk.inj eq
          exact ⟨first, rest, entry, rfl, by simp, member⟩
        · exact ⟨segment, rest, below, eq, List.mem_cons_of_mem _ within, member⟩
      · intro onward
        obtain ⟨segment, rest, below, rfl, within, member⟩ := onward
        rcases List.mem_cons.mp within with same | later
        · obtain ⟨rfl, rfl⟩ := Prod.mk.inj same
          exact .inl ⟨(rest, leaf), member, rfl⟩
        · exact .inr ⟨segment, rest, below, rfl, later, member⟩

theorem not_nil_mem_routesBelow {leaf : Entry} {entries : List (String × Entry)}
    : ([], leaf) ∉ routesBelow entries := by
  intro member
  obtain ⟨segment, rest, entry, eq, -⟩ := mem_routesBelow_iff.mp member
  contradiction

/-- Following segments finds a template exactly if they are the route to it, by induction on the
segments.
-/
theorem follow_eq_some_iff {entry : Entry} (distinct : entry.Distinct) {route : List String}
    {template : String}
    : entry.follow route = some template ↔ (route, .text template) ∈ entry.routes := by
  induction route generalizing entry with
  | nil =>
      cases entry with
      | text other => simp [follow, routes, eq_comm]
      | nested entries => simp [follow, routes, not_nil_mem_routesBelow]
      | other value => simp [follow, routes]
  | cons segment rest ih =>
      cases entry with
      | text other => simp [follow, routes]
      | other value => simp [follow, routes]
      | nested entries =>
          obtain ⟨names, below⟩ := distinct_nested_iff.mp distinct
          rw [routes, mem_routesBelow_iff, follow]
          constructor
          · intro found
            split at found
            · next entry here =>
                have member := Ordered.mem_of_lookup here
                exact ⟨segment, rest, entry, rfl, member, (ih (below _ member)).mp found⟩
            · contradiction
          · intro onward
            obtain ⟨first, others, entry, eq, member, within⟩ := onward
            obtain ⟨rfl, rfl⟩ := List.cons.inj eq
            rw [Ordered.lookup_of_mem names member]
            exact (ih (below _ member)).mpr within

/-- A level without points has routes without points, by induction on the route. -/
theorem undotted_of_mem_routes {entry leaf : Entry} (undotted : entry.Undotted)
    {route : List String} (member : (route, leaf) ∈ entry.routes)
    : ∀ segment ∈ route, '.' ∉ segment.toList := by
  induction route generalizing entry with
  | nil => simp
  | cons first rest ih =>
      cases entry with
      | text template => simp [routes] at member
      | other value => simp [routes] at member
      | nested entries =>
          obtain ⟨segment, below, entry, eq, within, later⟩ := mem_routesBelow_iff.mp member
          obtain ⟨rfl, rfl⟩ := List.cons.inj eq
          have here := undotted_nested_iff.mp undotted _ within
          intro segment found
          rcases List.mem_cons.mp found with rfl | found
          · exact here.1
          · exact ih here.2 later segment found

end Phrasebook.Entry
