import Phrasebook.Proofs.Lint.Segments
import Phrasebook.Proofs.Translation.Agreement

/-! Entries that lint calls dead: those under a dotted segment, with all that stands below them, and
values that are neither a template nor a level. Without them every key is translated as before.
-/

namespace Phrasebook

open Phrasebook.Text

namespace Entry

/-- Whether the entry is neither a template nor a level. -/
def isOther : Entry → Bool
  | .other _ => true
  | .text _ => false
  | .nested _ => false

mutual

/-- The entry without the dead entries below it. -/
def prune : Entry → Entry
  | .text template => .text template
  | .nested entries => .nested (pruneBelow entries)
  | .other value => .other value

/-- The entries of a level that are not dead, without the dead entries below them. -/
def pruneBelow : List (String × Entry) → List (String × Entry)
  | [] => []
  | (segment, entry) :: rest =>
      if isDotted segment || entry.isOther then pruneBelow rest
      else (segment, prune entry) :: pruneBelow rest

end

/-- Whether a key can follow the route to a template: no segment on it is dotted, and a template is
at its end.
-/
def isLive : List String × Entry → Bool
  | (route, leaf) => route.all (!isDotted ·) && !leaf.isOther

theorem isLive_cons (segment : String) (route : List String) (leaf : Entry)
    : isLive (segment :: route, leaf) = (!isDotted segment && isLive (route, leaf)) := by
  rw [isLive, isLive, List.all_cons, Bool.and_assoc]

-----------------------------------------------------------------------------------------
-- Pruning keeps the live routes and no others
-----------------------------------------------------------------------------------------

-- A level loses all routes through a dead entry. In front of the routes of any other entry, the
-- segment makes no difference to which of them are live.
mutual

theorem routes_prune {entry : Entry} (kept : entry.isOther = false)
    : entry.prune.routes = entry.routes.filter isLive := by
  cases entry with
  | text template => simp [prune, routes, isLive, isOther]
  | nested entries => exact routesBelow_pruneBelow entries
  | other value => contradiction

theorem routesBelow_pruneBelow (entries : List (String × Entry))
    : routesBelow (pruneBelow entries) = (routesBelow entries).filter isLive := by
  match entries with
  | [] => rfl
  | (segment, entry) :: rest =>
      have later := routesBelow_pruneBelow rest
      rw [routesBelow, List.filter_append, List.filter_map]
      by_cases dead : isDotted segment || entry.isOther
      · have lost : (routes entry).filter
            (isLive ∘ fun (route, leaf) => (segment :: route, leaf)) = [] := by
          rw [List.filter_eq_nil_iff]
          intro pair member
          rw [Function.comp_apply, isLive_cons]
          rcases Bool.or_eq_true_iff.mp dead with dotted | other
          · simp [dotted]
          · cases entry with
            | other value =>
                obtain rfl : pair = ([], .other value) := List.mem_singleton.mp member
                simp [isLive, isOther]
            | text | nested => contradiction
        rw [pruneBelow, if_pos dead, later, lost]
        rfl
      · rw [Bool.or_eq_true, not_or, Bool.not_eq_true, Bool.not_eq_true] at dead
        have same : (isLive ∘ fun (route, leaf) => (segment :: route, leaf)) = isLive := by
          funext pair
          rw [Function.comp_apply, isLive_cons, dead.1]
          rfl
        rw [pruneBelow, dead.1, dead.2, Bool.or_self, if_neg (by decide), routesBelow,
          routes_prune dead.2, later, same]

end

theorem segments_pruneBelow_sublist (entries : List (String × Entry))
    : ((pruneBelow entries).map Prod.fst).Sublist (entries.map Prod.fst) := by
  induction entries with
  | nil => exact .slnil
  | cons pair rest ih =>
      obtain ⟨segment, entry⟩ := pair
      rw [pruneBelow]
      split
      · exact ih.cons segment
      · exact ih.cons_cons segment

mutual

theorem Distinct.prune {entry : Entry} (h : entry.Distinct) : entry.prune.Distinct := by
  cases entry with
  | nested entries =>
      obtain ⟨segments, below⟩ := distinct_nested_iff.mp h
      refine distinct_nested_iff.mpr ⟨?_, distinct_of_mem_pruneBelow below⟩
      exact (segments_pruneBelow_sublist entries).nodup segments
  | text | other => trivial

theorem distinct_of_mem_pruneBelow {entries : List (String × Entry)}
    (below : ∀ pair ∈ entries, pair.2.Distinct)
    : ∀ pair ∈ pruneBelow entries, pair.2.Distinct := by
  match entries with
  | [] => simp [pruneBelow]
  | (segment, entry) :: rest =>
      obtain ⟨here, others⟩ := List.forall_mem_cons.mp below
      have later := distinct_of_mem_pruneBelow others
      rw [pruneBelow]
      split
      · exact later
      · exact List.forall_mem_cons.mpr ⟨here.prune, later⟩

end

mutual

theorem undotted_prune (entry : Entry) : entry.prune.Undotted := by
  cases entry with
  | nested entries => exact undotted_nested_iff.mpr (undotted_of_mem_pruneBelow entries)
  | text | other => trivial

theorem undotted_of_mem_pruneBelow (entries : List (String × Entry))
    : ∀ pair ∈ pruneBelow entries, '.' ∉ pair.1.toList ∧ pair.2.Undotted := by
  match entries with
  | [] => simp [pruneBelow]
  | (segment, entry) :: rest =>
      have later := undotted_of_mem_pruneBelow rest
      rw [pruneBelow]
      split
      · exact later
      · next kept =>
          rw [Bool.or_eq_true, not_or] at kept
          have plain : '.' ∉ segment.toList := by simpa [isDotted] using kept.1
          exact List.forall_mem_cons.mpr ⟨⟨plain, undotted_prune entry⟩, later⟩

end

end Entry

namespace Dictionary

/-- The dictionary without its dead entries. -/
def prune (d : Dictionary) : Dictionary :=
  ⟨Entry.pruneBelow d.entries⟩

theorem Distinct.prune {d : Dictionary} (h : d.Distinct) : d.prune.Distinct :=
  Entry.Distinct.prune h

theorem routesBelow_prune (d : Dictionary)
    : Entry.routesBelow d.prune.entries = (Entry.routesBelow d.entries).filter Entry.isLive :=
  Entry.routesBelow_pruneBelow d.entries

/-- The segments of a key are not dotted, so a key follows a route to a template exactly if it
follows a live one.
-/
theorem prune_agrees (d : DistinctDictionary) : d.prune.Agrees d.toDictionary := by
  intro key
  by_cases written : key = ""
  · subst written
    rfl
  · refine Option.ext fun template => ?_
    have live : Entry.isLive (segments '.' key, .text template) = true := by
      simp only [Entry.isLive, Entry.isOther, Bool.not_false, Bool.and_true, List.all_eq_true]
      intro segment member
      simpa [isDotted] using not_mem_of_mem_segments member
    rw [lookup_eq_some_iff (d := ⟨d.prune, d.distinct.prune⟩) written, lookup_eq_some_iff written,
      routesBelow_prune, List.mem_filter]
    exact and_iff_left live

/-- Nothing dead is left, so lint does not call anything dead again. -/
theorem dead_not_mem_lint_prune (d : Dictionary) (key : String)
    : Warning.unreachable key ∉ d.prune.lint ∧ Warning.notText key ∉ d.prune.lint := by
  refine ⟨silent_iff_undotted.mpr (Entry.undotted_prune (.nested d.entries)) key, ?_⟩
  rw [notText_mem_lint_iff]
  intro leaf
  obtain ⟨value, within⟩ := leaf
  rw [leaves_eq, routesBelow_prune] at within
  obtain ⟨⟨route, leaf⟩, member, eq⟩ := List.mem_map.mp within
  obtain ⟨-, rfl⟩ := Prod.mk.inj eq
  simp [Entry.isLive, Entry.isOther] at member

/-- Without its dead entries, a dictionary has the same template at every key, and gives the same
text for every key, count and argument. Lint finds no dead entry in it.
-/
theorem prune_keeps_texts (d : DistinctDictionary)
    : (∀ key, d.prune.lookup key = d.lookup key)
      ∧ (∀ key argument, d.prune.translate key argument = d.translate key argument)
      ∧ (∀ key count argument,
          d.prune.translatePlural key count argument = d.translatePlural key count argument)
      ∧ ∀ key, Warning.unreachable key ∉ d.prune.lint ∧ Warning.notText key ∉ d.prune.lint := by
  have agree := prune_agrees d
  exact ⟨agree, agree.translate_eq, agree.translatePlural_eq, d.dead_not_mem_lint_prune⟩

/-- An entry under a dotted segment does not stand in for a path that is spelled like it. -/
theorem prune_keeps_spelled_path
    : let d : Dictionary :=
        ⟨[("a.b", .text "dead"), ("a", .nested [("b", .text "|x"), ("c", .other .null)])]⟩
      d.lint ≠ [] ∧ d.prune.lint = [] ∧ d.prune.translatePlural "a.b" 2 .none = "x" := by
  intro d
  have kept := (prune_keeps_texts ⟨d, by decide⟩).2.2.1 "a.b" 2 .none
  exact ⟨by decide, by decide, kept.trans (by decide)⟩

end Dictionary

end Phrasebook
