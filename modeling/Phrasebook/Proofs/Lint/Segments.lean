import Phrasebook.Lint
import Phrasebook.Proofs.Dictionary.Paths

/-! Warnings about segments, and what follows from their absence. Without a warning about a dotted
segment there is none at any level, and a template is found at the path of its leaf unless it stands
below an empty segment at the top.
-/

namespace Phrasebook

open Phrasebook.Text

-----------------------------------------------------------------------------------------
-- The two kinds of warnings
-----------------------------------------------------------------------------------------

/-- Whether the warning is about a plural form. -/
def Warning.isAboutForm : Warning → Bool
  | .malformedTag _ _ => true
  | .emptyRange _ _ => true
  | .duplicateExact _ _ => true
  | .notText _ => false
  | .unreachable _ => false

theorem isAboutForm_of_mem_formWarnings {key form : String} {seen : List Int64}
    {warning : Warning} (member : warning ∈ formWarnings key seen form)
    : warning.isAboutForm = true := by
  unfold formWarnings at member
  split at member
  · rw [List.mem_ite_nil_right, List.mem_singleton] at member
    rw [member.2, Warning.isAboutForm]
  · rw [List.mem_ite_nil_right, List.mem_singleton] at member
    rw [member.2, Warning.isAboutForm]
  · rw [List.mem_ite_nil_right, List.mem_singleton] at member
    rw [member.2, Warning.isAboutForm]
  · contradiction

theorem isAboutForm_of_mem_lintForms {key : String} {seen : List Int64} {forms : List String}
    {warning : Warning} (member : warning ∈ lintForms key seen forms)
    : warning.isAboutForm = true := by
  induction forms generalizing seen with
  | nil => contradiction
  | cons form rest ih =>
      rcases List.mem_append.mp member with own | later
      · exact isAboutForm_of_mem_formWarnings own
      · exact ih later

theorem unreachable_not_mem_lintLeaf {key : String} {leaf : String × Entry}
    : Warning.unreachable key ∉ lintLeaf leaf := by
  intro member
  obtain ⟨path, entry⟩ := leaf
  cases entry with
  | text template =>
      have about := isAboutForm_of_mem_lintForms member
      contradiction
  | nested | other => simp [lintLeaf] at member

theorem notText_mem_lintLeaf_iff {key : String} {leaf : String × Entry}
    : Warning.notText key ∈ lintLeaf leaf ↔ ∃ value, leaf = (key, .other value) := by
  obtain ⟨path, entry⟩ := leaf
  cases entry with
  | text template =>
      have absent : Warning.notText key ∉ lintLeaf (path, .text template) := by
        intro member
        have about := isAboutForm_of_mem_lintForms member
        contradiction
      simp [absent]
  | nested | other => simp [lintLeaf, eq_comm]

namespace Entry

mutual

/-- The warnings about dotted segments are about the places with such segments, in their order, by
mutual induction with the levels below.
-/
theorem dottedAt_eq_places (path : String) (entry : Entry)
    : entry.dottedAt path =
      (entry.places.filter (isDotted ·.segment)).map
        fun place => .unreachable (pathAlong path place.route) := by
  cases entry with
  | text | other => rfl
  | nested entries => exact dottedBelow_eq_places path entries
termination_by sizeOf entry

theorem dottedBelow_eq_places (path : String) (entries : List (String × Entry))
    : dottedBelow path entries =
      ((placesBelow entries).filter (isDotted ·.segment)).map
        fun place => .unreachable (pathAlong path place.route) := by
  match entries with
  | [] => rfl
  | (segment, entry) :: rest =>
      have under : ((entry.places.map (Place.under segment)).filter (isDotted ·.segment)).map
            (fun place => Warning.unreachable (pathAlong path place.route)) =
          entry.dottedAt (childPath path segment) := by
        rw [dottedAt_eq_places, List.filter_map, List.map_map]
        rfl
      rw [dottedBelow, placesBelow, dottedBelow_eq_places path rest, List.filter_append,
        List.filter_cons, List.map_append, ← under]
      cases isDotted segment <;> rfl
termination_by sizeOf entries

end

theorem exists_unreachable_of_mem_dottedBelow {path : String} {entries : List (String × Entry)}
    {warning : Warning} (member : warning ∈ dottedBelow path entries)
    : ∃ key, warning = .unreachable key := by
  rw [dottedBelow_eq_places] at member
  obtain ⟨place, -, rfl⟩ := List.mem_map.mp member
  exact ⟨_, rfl⟩

theorem dottedBelow_silent_iff (path : String) (entries : List (String × Entry))
    : (∀ key, Warning.unreachable key ∉ dottedBelow path entries) ↔
      (nested entries).Undotted := by
  rw [undotted_iff_places, dottedBelow_eq_places, places]
  constructor
  · intro silent place member point
    apply silent (pathAlong path place.route)
    refine List.mem_map.mpr ⟨place, List.mem_filter.mpr ⟨member, ?_⟩, rfl⟩
    simpa [isDotted] using point
  · intro plain key listed
    obtain ⟨place, found, -⟩ := List.mem_map.mp listed
    obtain ⟨member, dotted⟩ := List.mem_filter.mp found
    exact plain place member (by simpa [isDotted] using dotted)

end Entry

namespace Dictionary

theorem unreachable_mem_lint_iff {d : Dictionary} {key : String}
    : Warning.unreachable key ∈ d.lint ↔ Warning.unreachable key ∈ dottedBelow "" d.entries := by
  rw [lint, List.mem_append, List.mem_flatMap]
  constructor
  · intro listed
    rcases listed with segment | ⟨leaf, -, member⟩
    · exact segment
    · exact absurd member unreachable_not_mem_lintLeaf
  · exact Or.inl

theorem notText_mem_lint_iff {d : Dictionary} {key : String}
    : Warning.notText key ∈ d.lint ↔ ∃ value, (key, Entry.other value) ∈ d.leaves := by
  rw [lint, List.mem_append, List.mem_flatMap]
  constructor
  · intro listed
    rcases listed with segment | ⟨leaf, within, member⟩
    · obtain ⟨other, eq⟩ := Entry.exists_unreachable_of_mem_dottedBelow segment
      contradiction
    · obtain ⟨value, rfl⟩ := notText_mem_lintLeaf_iff.mp member
      exact ⟨value, within⟩
  · intro leaf
    obtain ⟨value, within⟩ := leaf
    exact .inr ⟨_, within, notText_mem_lintLeaf_iff.mpr ⟨value, rfl⟩⟩

/-- No warning calls a key unreachable exactly if no segment of any level holds a point. -/
theorem silent_iff_undotted {d : Dictionary}
    : (∀ key, Warning.unreachable key ∉ d.lint) ↔ d.Undotted := by
  simp only [unreachable_mem_lint_iff]
  exact Entry.dottedBelow_silent_iff "" d.entries

-----------------------------------------------------------------------------------------
-- What the path of a leaf leads to
-----------------------------------------------------------------------------------------

/-- Requires the template to stand where the route leads without its leading empty segments, which
are not written in a path. If no segment is left, the template must be empty.
-/
def Reaches (d : Dictionary) (route : List String) (template : String) : Prop :=
  match route.dropWhile (· = "") with
  | [] => template = ""
  | first :: rest => (first :: rest, .text template) ∈ Entry.routesBelow d.entries

theorem reaches_cons_of_ne {d : Dictionary} {first : String} (named : first ≠ "")
    (rest : List String) (template : String)
    : d.Reaches (first :: rest) template ↔
      (first :: rest, .text template) ∈ Entry.routesBelow d.entries := by
  rw [Reaches, List.dropWhile_cons_of_neg (by simpa using named)]

/-- The path of a route without points leads to what the route without its leading empty segments
leads to; the empty path has the empty template.
-/
theorem lookup_pathAlong_iff {d : DistinctDictionary} {route : List String}
    (free : ∀ segment ∈ route, '.' ∉ segment.toList) (template : String)
    : d.lookup (Entry.pathAlong "" route) = some template ↔ d.Reaches route template := by
  rw [← Entry.pathAlong_dropWhile, Reaches]
  cases eq : route.dropWhile (· = "") with
  | nil => simp [Entry.pathAlong, lookup, eq_comm]
  | cons first rest =>
      have named : first ≠ "" := by
        intro empty
        have stops := List.head?_dropWhile_not (· = "") route
        simp [eq, empty] at stops
      have free' : ∀ segment ∈ first :: rest, '.' ∉ segment.toList := by
        intro segment member
        exact free segment ((List.dropWhile_sublist _).subset (eq ▸ member))
      rw [lookup_eq_some_iff (pathAlong_ne_empty named rest), segments_pathAlong named free']

/-- If lint calls no key unreachable, every template is found at the path of its leaf exactly when
the templates below an empty segment at the top stand again where their routes lead without their
leading empty segments.
-/
theorem found_at_paths_iff (d : DistinctDictionary)
    (silent : ∀ key, Warning.unreachable key ∉ d.lint)
    : (∀ path template,
        (path, Entry.text template) ∈ d.leaves → d.lookup path = some template) ↔
      ∀ route template,
        ("" :: route, Entry.text template) ∈ Entry.routesBelow d.entries →
          d.Reaches ("" :: route) template := by
  have undotted := silent_iff_undotted.mp silent
  have found {route : List String} {template : String}
      (member : (route, Entry.text template) ∈ Entry.routesBelow d.entries)
      : d.lookup (Entry.pathAlong "" route) = some template ↔ d.Reaches route template :=
    lookup_pathAlong_iff (Entry.undotted_of_mem_routes undotted member) template
  constructor
  · intro leads route template member
    refine (found member).mp (leads _ template ?_)
    rw [leaves_eq]
    exact List.mem_map.mpr ⟨_, member, rfl⟩
  · intro repeated path template member
    rw [leaves_eq] at member
    obtain ⟨⟨route, leaf⟩, within, eq⟩ := List.mem_map.mp member
    obtain ⟨rfl, rfl⟩ := Prod.mk.inj eq
    refine (found within).mpr ?_
    obtain ⟨first, rest, entry, rfl, -, -⟩ := Entry.mem_routesBelow_iff.mp within
    by_cases empty : first = ""
    · subst empty
      exact repeated rest template within
    · exact (reaches_cons_of_ne empty rest template).mpr within

/-- Two levels of empty segments leave the path of a key that has the same template. -/
theorem found_below_empty_segments
    : let d : Dictionary :=
        ⟨[("", .nested [("", .nested [("a", .nested [("", .text "x")])])]),
          ("a", .nested [("", .text "x"), ("b", .text "y")])]⟩
      d.lint = [] ∧ ∀ path template,
        (path, Entry.text template) ∈ d.leaves → d.lookup path = some template := by
  intro d
  have clean : d.lint = [] := by decide
  refine ⟨clean, (found_at_paths_iff ⟨d, by decide⟩ (by simp [clean])).mpr ?_⟩
  intro route template member
  have only : route = ["", "a", ""] ∧ template = "x" := by
    simpa [d, Entry.routesBelow, Entry.routes] using member
  obtain ⟨rfl, rfl⟩ := only
  simp [Reaches, d, Entry.routesBelow, Entry.routes]

/-- Below an empty segment at the top, the path of a leaf may lead nowhere. -/
theorem lookup_below_empty_segment
    : let d : Dictionary := ⟨[("", .nested [("a", .text "x")])]⟩
      d.lint = [] ∧ d.leaves = [("a", .text "x")] ∧ d.lookup "a" = none := by
  exact ⟨by decide, rfl, by decide⟩

end Dictionary

end Phrasebook
