import Phrasebook.Proofs.Lint.DeadEntries

/-! The warnings about the structure of a dictionary, those about dotted segments and about leaves
that are no templates. Each is about one place, in the order of the places, and has the path that the
leaf at this place is listed with.
-/

namespace Phrasebook

/-- The path of a leaf that is no template, if the warning is about one. -/
def Warning.notTextKey? : Warning → Option String
  | .notText key => some key
  | .unreachable _ => none
  | .malformedTag _ _ => none
  | .emptyRange _ _ => none
  | .duplicateExact _ _ => none

theorem notTextKey?_eq_none_of_aboutForm {warning : Warning} (about : warning.isAboutForm = true)
    : warning.notTextKey? = none := by
  cases warning <;> first | rfl | contradiction

namespace Dictionary

theorem dotted_eq_places (d : Dictionary)
    : dottedBelow "" d.entries =
      (d.places.filter (isDotted ·.segment)).map fun place => .unreachable place.path := by
  rw [Entry.dottedBelow_eq_places]
  refine List.map_congr_left fun place _ => ?_
  rw [Place.path, Entry.pathAlong_top_eq]

theorem filterMap_notTextKey?_lintLeaf (leaf : String × Entry)
    : (lintLeaf leaf).filterMap Warning.notTextKey? =
      if leaf.2.isOther then [leaf.1] else [] := by
  obtain ⟨path, entry⟩ := leaf
  cases entry with
  | text template =>
      refine List.filterMap_eq_nil_iff.mpr fun warning member => ?_
      exact notTextKey?_eq_none_of_aboutForm (isAboutForm_of_mem_lintForms member)
  | nested | other => rfl

theorem filterMap_notTextKey?_lint (d : Dictionary)
    : d.lint.filterMap Warning.notTextKey? = (d.leaves.filter (·.2.isOther)).map Prod.fst := by
  have structural : (dottedBelow "" d.entries).filterMap Warning.notTextKey? = [] := by
    refine List.filterMap_eq_nil_iff.mpr fun warning member => ?_
    obtain ⟨key, rfl⟩ := Entry.exists_unreachable_of_mem_dottedBelow member
    rfl
  rw [lint, List.filterMap_append, structural, List.nil_append]
  induction d.leaves with
  | nil => rfl
  | cons leaf rest ih =>
      rw [List.flatMap_cons, List.filterMap_append, filterMap_notTextKey?_lintLeaf, ih,
        List.filter_cons]
      split <;> rfl

/-- The warnings about dotted segments come first, one for each place with such a segment, and those
about leaves that are no templates are one for each such leaf. Both stand in the order of the places,
depth first, and both have the paths that leaves are listed with.
-/
theorem lint_exact_paths (d : DistinctDictionary)
    : (∃ others,
        d.lint =
            (d.places.filter (isDotted ·.segment)).map (fun place => .unreachable place.path)
              ++ others
          ∧ ∀ key, Warning.unreachable key ∉ others)
      ∧ d.lint.filterMap Warning.notTextKey? = (d.leaves.filter (·.2.isOther)).map Prod.fst
      ∧ d.leaves =
        (d.places.filter (·.entry.isLeaf)).map (fun place => (place.path, place.entry))
      ∧ (Entry.nested d.entries).DepthFirst d.places := by
  refine ⟨⟨d.leaves.flatMap lintLeaf, ?_, ?_⟩, d.filterMap_notTextKey?_lint, d.leaves_eq_places,
    ?_⟩
  · rw [lint, dotted_eq_places]
  · intro key member
    obtain ⟨leaf, -, listed⟩ := List.mem_flatMap.mp member
    exact unreachable_not_mem_lintLeaf listed
  · exact Entry.depthFirst_places d.distinct

/-- A dotted segment below another one has a warning of its own, and the empty segment above both is
in no path.
-/
theorem lint_paths_of_places
    : let d : Dictionary :=
        ⟨[("", .nested [("a.b", .nested [("c.d", .text "x"), ("e", .other .null)])]),
          ("f.", .other .null)]⟩
      d.lint.filterMap Warning.notTextKey? = ["a.b.e", "f."]
        ∧ ∃ place ∈ d.places, isDotted place.segment = true ∧ place.path = "a.b.c.d" := by
  intro d
  obtain ⟨-, values, -, places⟩ := lint_exact_paths ⟨d, by decide⟩
  refine ⟨values.trans (by decide), ⟨["", "a.b"], "c.d", .text "x"⟩, ?_, by decide, by decide⟩
  exact (places.member _).mpr rfl

end Dictionary

end Phrasebook
