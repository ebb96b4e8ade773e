import Phrasebook.Lint
import Phrasebook.Proofs.Dictionary.Paths

/-! Dictionaries that are changed or put into others. An entry under a segment is seen by the keys
that start with this segment, and by no others; a dictionary below several segments is seen by the
keys that start with all of them.
-/

namespace Phrasebook

open Phrasebook.Text

namespace Entry

/-- The template that an entry is. -/
def template? : Entry → Option String
  | .text template => some template
  | .nested _ => none
  | .other _ => none

/-- Following segments leads to an entry, which must be a template, by induction on the segments. -/
theorem follow_eq_at? (route : List String) (entry : Entry)
    : entry.follow route = (entry.at? route).bind template? := by
  induction route generalizing entry with
  | nil => cases entry <;> rfl
  | cons segment rest ih =>
      cases entry with
      | text | other => rfl
      | nested entries =>
          rw [follow, at?, Option.bind_assoc]
          cases entries.lookup segment with
          | none => rfl
          | some entry => exact ih entry

end Entry

namespace Dictionary

theorem lookup_eq_of_segments (d : Dictionary) {key first : String} {rest : List String}
    (written : key ≠ "") (eq : segments '.' key = first :: rest)
    : d.lookup key = (d.get? first).bind fun entry => (entry.at? rest).bind Entry.template? := by
  rw [lookup_eq_follow d written, eq, Entry.follow_eq_at?, Entry.at?, Option.bind_assoc, get?]

-----------------------------------------------------------------------------------------
-- An entry put under a segment
-----------------------------------------------------------------------------------------

/-- The keys that start with the segment lead into the new entry, and the others where they led. -/
theorem lookup_insert (d : Dictionary) (segment : String) (entry : Entry) {key first : String}
    {rest : List String} (written : key ≠ "") (eq : segments '.' key = first :: rest)
    : (d.insert segment entry).lookup key =
      if first = segment then (entry.at? rest).bind Entry.template? else d.lookup key := by
  rw [lookup_eq_of_segments _ written eq]
  split
  · next same =>
      rw [same, get?, insert, Ordered.lookup_insert_self, Option.bind_some]
  · next ne =>
      rw [lookup_eq_of_segments d written eq, get?, insert, Ordered.lookup_insert_of_ne ne, get?]

/-- No key has a segment with a point. -/
theorem lookup_insert_of_dotted (d : Dictionary) {segment : String} (entry : Entry)
    (dotted : isDotted segment = true) (key : String)
    : (d.insert segment entry).lookup key = d.lookup key := by
  by_cases written : key = ""
  · subst written
    rfl
  · obtain ⟨first, rest, eq⟩ := exists_segments_eq_cons '.' key
    have free : '.' ∉ first.toList := not_mem_of_mem_segments (eq ▸ List.mem_cons_self)
    have ne : first ≠ segment := by
      intro same
      subst same
      exact free (by simpa [isDotted] using dotted)
    rw [lookup_insert d segment entry written eq, if_neg ne]

-----------------------------------------------------------------------------------------
-- A dictionary below segments
-----------------------------------------------------------------------------------------

/-- A key of a dictionary is one behind the segment that the dictionary stands under. -/
theorem lookup_nestUnder (d : Dictionary) {segment key : String} (free : '.' ∉ segment.toList)
    (written : key ≠ "")
    : (d.nestUnder segment).lookup (segment ++ "." ++ key) = d.lookup key := by
  have below : segments '.' (segment ++ "." ++ key) = segment :: segments '.' key :=
    segments_append free key
  have still : segment ++ "." ++ key ≠ "" := by
    intro empty
    simpa using congrArg String.toList empty
  rw [nestUnder, lookup_insert _ _ _ still below, if_pos rfl, ← Entry.follow_eq_at?,
    lookup_eq_follow d written]

theorem intercalate_append_ne_empty (above : List String) {key : String} (written : key ≠ "")
    : ".".intercalate (above ++ [key]) ≠ "" := by
  cases above with
  | nil => simpa using written
  | cons segment rest =>
      rw [List.cons_append, String.intercalate_cons_of_ne_nil (by simp)]
      intro empty
      simpa using congrArg String.toList empty

/-- A key of a dictionary is one behind all segments that lead to the dictionary, by induction on
them.
-/
theorem lookup_nestUnderEach (d : Dictionary) {above : List String} {key : String}
    (free : ∀ segment ∈ above, '.' ∉ segment.toList) (written : key ≠ "")
    : (d.nestUnderEach above).lookup (".".intercalate (above ++ [key])) = d.lookup key := by
  induction above with
  | nil => simp [nestUnderEach]
  | cons segment rest ih =>
      obtain ⟨here, later⟩ := List.forall_mem_cons.mp free
      have still := intercalate_append_ne_empty rest written
      rw [List.cons_append, String.intercalate_cons_of_ne_nil (by simp)]
      exact (lookup_nestUnder _ here still).trans (ih later)

/-- After an entry is put under a segment, a key that starts with the segment leads to what its other
segments find from the entry, and any other key leads where it led before; so nothing changes if the
segment holds a point. Behind the segments that lead to a dictionary, each of its keys leads to what
it leads to in the dictionary.
-/
theorem lookup_after_updates (d : Dictionary)
    : (∀ segment entry key first rest,
        key ≠ "" →
          segments '.' key = first :: rest →
            (d.insert segment entry).lookup key =
              if first = segment then (entry.at? rest).bind Entry.template? else d.lookup key)
      ∧ (∀ segment entry,
          isDotted segment = true → ∀ key, (d.insert segment entry).lookup key = d.lookup key)
      ∧ ∀ above key,
          (∀ segment ∈ above, '.' ∉ segment.toList) →
            key ≠ "" →
              (d.nestUnderEach above).lookup (".".intercalate (above ++ [key])) = d.lookup key := by
  refine ⟨?_, ?_, ?_⟩
  · intro segment entry key first rest written eq
    exact d.lookup_insert segment entry written eq
  · intro segment entry dotted key
    exact d.lookup_insert_of_dotted entry dotted key
  · intro above key free written
    exact d.lookup_nestUnderEach free written

/-- A new entry takes the place of a level, a dotted segment hides nothing, and empty segments lead to
a dictionary like any others.
-/
theorem lookup_after_several_updates
    : let d : Dictionary := ⟨[("a", .nested [("b", .text "old")]), ("c", .text "kept")]⟩
      (d.insert "a" (.nested [("", .text "new")])).lookup "a." = some "new"
        ∧ (d.insert "a" (.text "new")).lookup "c" = some "kept"
        ∧ (d.insert "a.b" (.text "new")).lookup "a.b" = some "old"
        ∧ (d.nestUnderEach ["", "x", ""]).lookup ".x..a.b" = some "old" := by
  intro d
  obtain ⟨inserted, dotted, nested⟩ := d.lookup_after_updates
  refine ⟨?_, ?_, ?_, ?_⟩
  · exact (inserted "a" (.nested [("", .text "new")]) "a." "a" [""] (by decide) (by decide)).trans
      (by decide)
  · exact (inserted "a" (.text "new") "c" "c" [] (by decide) (by decide)).trans (by decide)
  · exact (dotted "a.b" (.text "new") (by decide) "a.b").trans (by decide)
  · exact (nested ["", "x", ""] "a.b" (by decide) (by decide)).trans (by decide)

end Dictionary

end Phrasebook
