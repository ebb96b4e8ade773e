import Mathlib.Data.List.Nodup
import Phrasebook.Proofs.Dictionary.Routes
import Phrasebook.Proofs.Dictionary.Values

/-! The places of all entries, templates and levels alike. Depth first they are listed once each, in
the order of the entries, and the leaves are at those of them that hold no level.
-/

namespace Phrasebook

/-- Where an entry stands: under its segment, below the segments of the levels above. -/
structure Place where
  above : List String
  segment : String
  entry : Entry

namespace Place

/-- The segments that lead to the entry. -/
def route (place : Place) : List String :=
  place.above ++ [place.segment]

/-- The segments that lead to the entry, joined by points. Empty ones at the start are not written.
-/
def path (place : Place) : String :=
  ".".intercalate (place.route.dropWhile (· = ""))

/-- The place one level deeper, below the segment. -/
def under (segment : String) (place : Place) : Place :=
  { place with above := segment :: place.above }

@[simp]
theorem route_under (segment : String) (place : Place)
    : (place.under segment).route = segment :: place.route := rfl

theorem exists_route_eq_cons (place : Place) : ∃ first rest, place.route = first :: rest :=
  List.exists_cons_of_ne_nil (by simp [route])

end Place

namespace Entry

/-- Whether the entry is not a level. -/
def isLeaf : Entry → Bool
  | .nested _ => false
  | .text _ => true
  | .other _ => true

mutual

/-- The places below an entry, depth first: each comes before those below it. -/
def places : Entry → List Place
  | .nested entries => placesBelow entries
  | .text _ => []
  | .other _ => []

/-- The places of a level and of those below it, depth first. -/
def placesBelow : List (String × Entry) → List Place
  | [] => []
  | (segment, entry) :: rest =>
      ⟨[], segment, entry⟩ :: (places entry).map (Place.under segment) ++ placesBelow rest

end

/-- The entry that the segments lead to, one level at a time. -/
def at? : List String → Entry → Option Entry
  | [], entry => some entry
  | segment :: rest, .nested entries => (entries.lookup segment).bind (at? rest)
  | _ :: _, .text _ => none
  | _ :: _, .other _ => none

/-- Requires the first route to come before the second one, depth first: it ends where the second goes
on, or it goes into an earlier entry of the level where they part.
-/
def Precedes : Entry → List String → List String → Prop
  | _, [], _ :: _ => True
  | .nested entries, first :: route, second :: onward =>
      if first = second then ∃ entry, (first, entry) ∈ entries ∧ Precedes entry route onward
      else [first, second].Sublist (entries.map Prod.fst)
  | _, _, _ => False

/-- Requires the list to have the place of every entry below the given one, each once and in the order
of the entries.
-/
structure DepthFirst (entry : Entry) (places : List Place) : Prop where
  member : ∀ place, place ∈ places ↔ entry.at? place.route = some place.entry
  once : (places.map Place.route).Nodup
  ordered : places.Pairwise fun place later => entry.Precedes place.route later.route

-----------------------------------------------------------------------------------------
-- Every entry has its place
-----------------------------------------------------------------------------------------

theorem top_mem_placesBelow_iff {segment : String} {found : Entry}
    {entries : List (String × Entry)}
    : ⟨[], segment, found⟩ ∈ placesBelow entries ↔ (segment, found) ∈ entries := by
  induction entries with
  | nil => simp [placesBelow]
  | cons pair entries ih => simp [placesBelow, ih, Place.under, Prod.ext_iff]

theorem under_mem_placesBelow_iff {first segment : String} {above : List String} {found : Entry}
    {entries : List (String × Entry)}
    : ⟨first :: above, segment, found⟩ ∈ placesBelow entries ↔
      ∃ entry, (first, entry) ∈ entries ∧ ⟨above, segment, found⟩ ∈ entry.places := by
  induction entries with
  | nil => simp [placesBelow]
  | cons pair entries ih =>
      obtain ⟨name, entry⟩ := pair
      have deeper : (∃ place ∈ entry.places, place.under name = ⟨first :: above, segment, found⟩) ↔
          first = name ∧ ⟨above, segment, found⟩ ∈ entry.places := by
        constructor
        · intro listed
          obtain ⟨place, member, eq⟩ := listed
          simp only [Place.under, Place.mk.injEq, List.cons.injEq] at eq
          obtain ⟨⟨rfl, rfl⟩, rfl, rfl⟩ := eq
          exact ⟨rfl, member⟩
        · intro below
          obtain ⟨rfl, member⟩ := below
          exact ⟨_, member, rfl⟩
      rw [placesBelow, List.cons_append, List.mem_cons, List.mem_append, List.mem_map, deeper, ih]
      simp [or_and_right, exists_or]

theorem forall_mem_placesBelow {P : Place → Prop} {entries : List (String × Entry)}
    : (∀ place ∈ placesBelow entries, P place) ↔
      ∀ pair ∈ entries,
        P ⟨[], pair.1, pair.2⟩ ∧ ∀ place ∈ pair.2.places, P (place.under pair.1) := by
  induction entries with
  | nil => simp [placesBelow]
  | cons pair entries ih =>
      rw [placesBelow, List.forall_mem_append, List.forall_mem_cons, List.forall_mem_map, ih,
        List.forall_mem_cons]

/-- A requirement on the segments of all levels is one on the segments of the places. -/
theorem undotted_iff_places {entry : Entry}
    : entry.Undotted ↔ ∀ place ∈ entry.places, '.' ∉ place.segment.toList := by
  induction entry using Entry.induction with
  | text | other => simp [Undotted, EveryLevel, places]
  | nested entries ih =>
      rw [undotted_nested_iff, places, forall_mem_placesBelow]
      exact forall₂_congr fun pair member => and_congr_right fun _ => ih pair member

/-- The places are those that segments lead to, by induction on the segments above. -/
theorem mem_places_iff {entry : Entry} (distinct : entry.Distinct) {place : Place}
    : place ∈ entry.places ↔ entry.at? place.route = some place.entry := by
  obtain ⟨above, segment, found⟩ := place
  induction above generalizing entry with
  | nil =>
      cases entry with
      | text | other => simp [places, Place.route, at?]
      | nested entries =>
          obtain ⟨names, -⟩ := distinct_nested_iff.mp distinct
          have top : (entries.lookup segment).bind (at? []) = entries.lookup segment := by
            cases entries.lookup segment <;> rfl
          rw [places, top_mem_placesBelow_iff, Place.route, List.nil_append, at?, top]
          exact ⟨Ordered.lookup_of_mem names, Ordered.mem_of_lookup⟩
  | cons first above ih =>
      cases entry with
      | text | other => simp [places, Place.route, at?]
      | nested entries =>
          obtain ⟨names, below⟩ := distinct_nested_iff.mp distinct
          rw [places, under_mem_placesBelow_iff, Place.route, List.cons_append, at?,
            Option.bind_eq_some_iff]
          constructor
          · intro listed
            obtain ⟨entry, member, deeper⟩ := listed
            exact ⟨entry, Ordered.lookup_of_mem names member, (ih (below _ member)).mp deeper⟩
          · intro reached
            obtain ⟨entry, here, led⟩ := reached
            have member := Ordered.mem_of_lookup here
            exact ⟨entry, member, (ih (below _ member)).mpr led⟩

-----------------------------------------------------------------------------------------
-- The places stand in the order of the entries
-----------------------------------------------------------------------------------------

/-- A route does not come before itself, by induction on it. -/
theorem not_precedes_self {entry : Entry} {route : List String} : ¬entry.Precedes route route := by
  induction route generalizing entry with
  | nil => cases entry <;> simp [Precedes]
  | cons segment rest ih =>
      cases entry with
      | text | other => simp [Precedes]
      | nested entries => simp [Precedes, ih]

theorem Precedes.later {pair : String × Entry} {rest : List (String × Entry)}
    {route onward : List String} (h : (nested rest).Precedes route onward)
    : (nested (pair :: rest)).Precedes route onward := by
  match route, onward with
  | [], _ :: _ => trivial
  | first :: route, second :: onward =>
      unfold Precedes at h ⊢
      split at h
      · next same =>
          obtain ⟨entry, member, deeper⟩ := h
          rw [if_pos same]
          exact ⟨entry, List.mem_cons_of_mem pair member, deeper⟩
      · next ne =>
          rw [if_neg ne]
          exact h.cons pair.1

theorem precedes_under {segment : String} {entry : Entry} {rest : List (String × Entry)}
    {route onward : List String} (h : entry.Precedes route onward)
    : (nested ((segment, entry) :: rest)).Precedes (segment :: route) (segment :: onward) := by
  rw [Precedes, if_pos rfl]
  exact ⟨entry, List.mem_cons_self, h⟩

theorem exists_route_of_mem_placesBelow {entries : List (String × Entry)} {place : Place}
    (member : place ∈ placesBelow entries)
    : ∃ segment rest, place.route = segment :: rest ∧ segment ∈ entries.map Prod.fst := by
  obtain ⟨above, segment, found⟩ := place
  cases above with
  | nil =>
      have top := top_mem_placesBelow_iff.mp member
      exact ⟨segment, [], rfl, List.mem_map_of_mem top⟩
  | cons first above =>
      obtain ⟨entry, top, -⟩ := under_mem_placesBelow_iff.mp member
      exact ⟨first, above ++ [segment], rfl, List.mem_map_of_mem top⟩

mutual

/-- Each place comes before the ones listed after it, by mutual induction with the levels below. -/
theorem pairwise_places (entry : Entry) (distinct : entry.Distinct)
    : entry.places.Pairwise fun place later => entry.Precedes place.route later.route := by
  cases entry with
  | text | other => simp [places]
  | nested entries =>
      obtain ⟨names, below⟩ := distinct_nested_iff.mp distinct
      exact pairwise_placesBelow entries names below
termination_by sizeOf entry

theorem pairwise_placesBelow (entries : List (String × Entry)) (names : Ordered.Distinct entries)
    (below : ∀ pair ∈ entries, pair.2.Distinct)
    : (placesBelow entries).Pairwise fun place later =>
        (nested entries).Precedes place.route later.route := by
  match entries with
  | [] => simp [placesBelow]
  | (segment, entry) :: rest =>
      rw [Ordered.Distinct, List.map_cons, List.nodup_cons] at names
      have here := pairwise_places entry (below (segment, entry) (by simp))
      have later := pairwise_placesBelow rest names.2 fun pair member => below pair (by simp [member])
      rw [placesBelow, List.pairwise_append, List.pairwise_cons, List.pairwise_map]
      refine ⟨⟨?_, ?_⟩, later.imp fun h => h.later, ?_⟩
      · intro place member
        obtain ⟨deeper, -, rfl⟩ := List.mem_map.mp member
        obtain ⟨first, route, eq⟩ := deeper.exists_route_eq_cons
        rw [Place.route_under, eq]
        exact precedes_under trivial
      · exact here.imp fun h => precedes_under h
      · intro place own other member
        obtain ⟨name, onward, eq, listed⟩ := exists_route_of_mem_placesBelow member
        have starts : ∃ route, place.route = segment :: route := by
          rcases List.mem_cons.mp own with rfl | within
          · exact ⟨[], rfl⟩
          · obtain ⟨deeper, -, rfl⟩ := List.mem_map.mp within
            exact ⟨deeper.route, rfl⟩
        obtain ⟨route, eq'⟩ := starts
        have ne : segment ≠ name := fun same => names.1 (same ▸ listed)
        rw [eq, eq', Precedes, if_neg ne, List.map_cons]
        exact (List.singleton_sublist.mpr listed).cons_cons segment
termination_by sizeOf entries

end

theorem depthFirst_places {entry : Entry} (distinct : entry.Distinct)
    : entry.DepthFirst entry.places := by
  have ordered := pairwise_places entry distinct
  refine ⟨fun place => mem_places_iff distinct, ?_, ordered⟩
  rw [List.Nodup, List.pairwise_map]
  refine ordered.imp fun before same => ?_
  rw [same] at before
  exact not_precedes_self before

-----------------------------------------------------------------------------------------
-- The leaves among the places
-----------------------------------------------------------------------------------------

mutual

/-- The leaves of an entry are the places below it that hold no level, and the entry itself if it is
none.
-/
theorem routes_eq_places (entry : Entry)
    : entry.routes =
      (if entry.isLeaf then [([], entry)] else [])
        ++ (entry.places.filter (·.entry.isLeaf)).map fun place => (place.route, place.entry) := by
  cases entry with
  | text | other => rfl
  | nested entries => exact routesBelow_eq_places entries
termination_by sizeOf entry

theorem routesBelow_eq_places (entries : List (String × Entry))
    : routesBelow entries =
      ((placesBelow entries).filter (·.entry.isLeaf)).map
        fun place => (place.route, place.entry) := by
  match entries with
  | [] => rfl
  | (segment, entry) :: rest =>
      have under : ((entry.places.map (Place.under segment)).filter (·.entry.isLeaf)).map
            (fun place => (place.route, place.entry)) =
          ((entry.places.filter (·.entry.isLeaf)).map fun place => (place.route, place.entry)).map
            fun (route, leaf) => (segment :: route, leaf) := by
        rw [List.filter_map, List.map_map, List.map_map]
        rfl
      rw [routesBelow, placesBelow, routes_eq_places entry, routesBelow_eq_places rest,
        List.filter_append, List.filter_cons, List.map_append, List.map_append, ← under]
      cases entry.isLeaf <;> rfl
termination_by sizeOf entries

end

/-- No two leaves have the same route, since no two places have. -/
theorem nodup_routes (entry : Entry) (distinct : entry.Distinct)
    : (entry.routes.map Prod.fst).Nodup := by
  cases entry with
  | text | other => simp [routes]
  | nested entries =>
      rw [routes, routesBelow_eq_places, List.map_map]
      exact (depthFirst_places distinct).once.sublist (List.filter_sublist.map _)

end Entry

namespace Dictionary

/-- The places of all entries of d, depth first. -/
def places (d : Dictionary) : List Place :=
  Entry.placesBelow d.entries

theorem leaves_eq_places (d : Dictionary)
    : d.leaves =
      (d.places.filter (·.entry.isLeaf)).map fun place => (place.path, place.entry) := by
  rw [leaves, Entry.leavesBelow_eq, Entry.routesBelow_eq_places, List.map_map, places]
  refine List.map_congr_left fun place _ => ?_
  rw [Place.path, ← Entry.pathAlong_top_eq]
  rfl

end Dictionary

end Phrasebook
