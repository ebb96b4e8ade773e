import Phrasebook.Proofs.Interpolation.Reference

/-! Names of which no two can take the same placeholder. Filling a template with them name by name
is the same as reading it once and putting a value wherever a placeholder stands, so their order is
of no account.
-/

namespace Phrasebook

namespace Interpolation

variable {entries others : List (String × Value)} {text rest filled : List Char}

/-- Requires the names to be such that no two of them can take the same placeholder. -/
structure PrefixFree (names : List String) : Prop where
  named : ∀ name ∈ names, name ≠ ""
  colonFree : ∀ name ∈ names, ':' ∉ name.toList
  apart : ∀ name ∈ names, ∀ other ∈ names, name.toList <+: other.toList → name = other

theorem PrefixFree.mono {names more : List String} (h : PrefixFree more) (sub : names ⊆ more)
    : PrefixFree names where
  named := fun name member => h.named name (sub member)
  colonFree := fun name member => h.colonFree name (sub member)
  apart := fun name member other among => h.apart name (sub member) other (sub among)

/-- A name is no start of a text that another name starts: one of them would start the other. -/
theorem PrefixFree.not_prefix_append {names : List String} (h : PrefixFree names)
    {name other : String} (member : name ∈ names) (among : other ∈ names) (ne : name ≠ other)
    (rest : List Char)
    : ¬(name.toList <+: other.toList ++ rest) := by
  intro starts
  rcases List.prefix_or_prefix_of_prefix starts (List.prefix_append _ rest) with within | beyond
  · exact ne (h.apart name member other among within)
  · exact ne (h.apart other among name member beyond).symm

/-- No placeholder of a name starts the text. -/
def Untaken (entries : List (String × Value)) (text : List Char) : Prop :=
  ∀ entry ∈ entries, entry.1 ≠ "" → ¬(':' :: entry.1.toList <+: text)

/-- The template is read once, from left to right. Where the placeholder of a name stands, the value
of the name takes its place, and every other character stays.
-/
inductive FilledAtOnce (entries : List (String × Value)) : List Char → List Char → Prop
  | done : FilledAtOnce entries [] []
  | placeholder {name value rest filled} (member : (name, value) ∈ entries) (named : name ≠ "")
    (more : FilledAtOnce entries rest filled)
    : FilledAtOnce entries (':' :: name.toList ++ rest) (value.display.toList ++ filled)
  | character {c rest filled} (untaken : Untaken entries (c :: rest))
    (more : FilledAtOnce entries rest filled)
    : FilledAtOnce entries (c :: rest) (c :: filled)

theorem Untaken.perm (perm : entries.Perm others) (h : Untaken entries text)
    : Untaken others text :=
  fun entry member => h entry (perm.mem_iff.mpr member)

/-- Reading the template once asks only which values the names have. -/
theorem FilledAtOnce.perm (perm : entries.Perm others) (h : FilledAtOnce entries text filled)
    : FilledAtOnce others text filled := by
  induction h with
  | done => exact .done
  | placeholder member named _ ih => exact .placeholder (perm.mem_iff.mp member) named ih
  | character untaken _ ih => exact .character (untaken.perm perm) ih

-----------------------------------------------------------------------------------------
-- What stands in front of the rest of a text
-----------------------------------------------------------------------------------------

theorem intercalate_append_cons (between front part : List Char) (parts : List (List Char))
    : between.intercalate ((front ++ part) :: parts) =
      front ++ between.intercalate (part :: parts) := by
  cases parts with
  | nil => simp
  | cons next parts => simp [List.intercalate_cons_cons]

/-- If the first name cuts nothing off a front, and the other names turn it into the same text
before every start of the rest, then so do all names before the rest.
-/
theorem fill_cons_append {name : String} (named : name ≠ "") (value : Value)
    (front turned : List Char)
    (uncut : cut name.toList (front ++ rest) = (cut name.toList rest).modifyHead (front ++ ·))
    (kept : ∀ part, part <+: rest → fill others (front ++ part) = turned ++ fill others part)
    : fill ((name, value) :: others) (front ++ rest) =
      turned ++ fill ((name, value) :: others) rest := by
  obtain ⟨part, more, eq⟩ := List.exists_cons_of_ne_nil (cut_ne_nil name.toList rest)
  have start : part <+: rest := by
    have joined := (parts_cut name.toList rest).intercalate_eq
    rw [eq, ← List.append_nil part, intercalate_append_cons] at joined
    exact ⟨_, joined⟩
  rw [fill_cons named, fill_cons named, uncut, eq, List.modifyHead_cons, List.map_cons,
    List.map_cons, kept part start, intercalate_append_cons]

/-- A character at which no placeholder starts stays as it is, by induction on the names. -/
theorem fill_character {c : Char} (untaken : Untaken entries (c :: rest))
    : fill entries (c :: rest) = c :: fill entries rest := by
  induction entries generalizing rest with
  | nil => rw [fill_nil, fill_nil]
  | cons entry others ih =>
      obtain ⟨name, value⟩ := entry
      obtain ⟨first, later⟩ := List.forall_mem_cons.mp untaken
      by_cases empty : name = ""
      · rw [empty, fill_cons_empty, fill_cons_empty, ih later]
      · refine fill_cons_append empty value [c] [c] (cut_cons (first empty)) ?_
        intro part start
        refine ih fun entry member present taken => later entry member present ?_
        exact taken.trans ((List.prefix_cons_inj c).mpr start)

/-- The placeholder of a bound name gives way to its value, by induction on the names: those before
the name neither start like the placeholder nor within it.
-/
theorem fill_bound (distinct : Ordered.Distinct entries)
    (free : PrefixFree (entries.map Prod.fst)) {name : String} {value : Value}
    (member : (name, value) ∈ entries)
    : fill entries (':' :: name.toList ++ rest) = value.display.toList ++ fill entries rest := by
  induction entries generalizing rest with
  | nil => contradiction
  | cons entry others ih =>
      obtain ⟨first, current⟩ := entry
      have named := free.named first (by simp)
      obtain ⟨new, distinct⟩ := List.nodup_cons.mp distinct
      rcases List.mem_cons.mp member with same | later
      · obtain ⟨rfl, rfl⟩ := Prod.mk.inj same
        exact fill_cons_placeholder named value others rest
      · have listed : name ∈ others.map Prod.fst := List.mem_map_of_mem later
        have among : name ∈ ((first, current) :: others).map Prod.fst :=
          List.mem_cons_of_mem first listed
        have ne : first ≠ name := fun same => new (same ▸ listed)
        have absent : ¬(':' :: first.toList <+: ':' :: (name.toList ++ rest)) :=
          fun starts => free.not_prefix_append (by simp) among ne rest
            ((List.prefix_cons_inj ':').mp starts)
        refine fill_cons_append named current (':' :: name.toList) value.display.toList ?_ ?_
        · rw [List.cons_append, cut_cons absent, cut_append_of_free _ (free.colonFree name among),
            List.modifyHead_modifyHead]
          rfl
        · intro part _
          exact ih distinct (free.mono (by simp)) later

-----------------------------------------------------------------------------------------
-- One reading fills all names
-----------------------------------------------------------------------------------------

/-- Every template is filled by reading it once, by induction on its length: behind a placeholder or
a character less of it is left.
-/
theorem filledAtOnce_fill (distinct : Ordered.Distinct entries)
    (free : PrefixFree (entries.map Prod.fst)) (text : List Char)
    : FilledAtOnce entries text (fill entries text) := by
  induction length : text.length using Nat.strongRecOn generalizing text with
  | ind n ih =>
      cases text with
      | nil =>
          rw [fill_of_free List.not_mem_nil]
          exact .done
      | cons c rest =>
          by_cases taken : ∃ entry ∈ entries, entry.1 ≠ "" ∧ ':' :: entry.1.toList <+: c :: rest
          · obtain ⟨⟨name, value⟩, member, named, rest, eq⟩ := taken
            have shorter : rest.length < n := by
              rw [← length, ← eq, List.length_append, List.length_cons]
              omega
            rw [← eq, fill_bound distinct free member]
            exact .placeholder member named (ih rest.length shorter rest rfl)
          · have untaken : Untaken entries (c :: rest) :=
              fun entry member named starts => taken ⟨entry, member, named, starts⟩
            rw [fill_character untaken]
            exact .character untaken (ih rest.length (by simp [← length]) rest rfl)

/-- Reading the template once leaves no other text than filling name by name, by induction on the
reading.
-/
theorem FilledAtOnce.eq_fill (distinct : Ordered.Distinct entries)
    (free : PrefixFree (entries.map Prod.fst)) (h : FilledAtOnce entries text filled)
    : filled = fill entries text := by
  induction h with
  | done => exact (fill_of_free List.not_mem_nil entries).symm
  | placeholder member _ _ ih => rw [fill_bound distinct free member, ih]
  | character untaken _ ih => rw [fill_character untaken, ih]

end Interpolation

open Interpolation

/-- Names of which no two can take the same placeholder fill a template in any order alike: as if it
were read once, with the value of a name wherever a placeholder of the name stands.
-/
theorem interpolate_perm {b other : Bindings} (free : PrefixFree (b.entries.map Prod.fst))
    (perm : b.entries.Perm other.entries) (template : String)
    : interpolate template (some other) = interpolate template (some b)
      ∧ ∀ filled : String,
          FilledAtOnce b.entries template.toList filled.toList ↔
            interpolate template (some b) = filled := by
  have once := filledAtOnce_fill b.distinct free template.toList
  have reordered : PrefixFree (other.entries.map Prod.fst) :=
    free.mono (perm.map Prod.fst).symm.subset
  refine ⟨?_, fun filled => ⟨fun h => ?_, ?_⟩⟩
  · exact congrArg String.ofList ((once.perm perm).eq_fill other.distinct reordered).symm
  · rw [interpolate, ← h.eq_fill b.distinct free, String.ofList_toList]
  · rintro rfl
    rw [interpolate, String.toList_ofList]
    exact once

/-- Values that are the placeholders of other names stay as they are in either order. -/
theorem interpolate_reversed
    : let b := Bindings.ofList
        [("a", .text ":b"), ("b", .text ":c|:a"), ("cc", .number 7)]
      let other := Bindings.ofList
        [("cc", .number 7), ("b", .text ":c|:a"), ("a", .text ":b")]
      PrefixFree (b.entries.map Prod.fst)
        ∧ b.entries.Perm other.entries
        ∧ interpolate ":a:b::ab:c:cc" (some other) = interpolate ":a:b::ab:c:cc" (some b)
        ∧ interpolate ":a:b::ab:c:cc" (some b) = ":b:c|:a::bb:c7" := by
  intro b other
  have free : PrefixFree (b.entries.map Prod.fst) := ⟨by decide, by decide, by decide⟩
  have perm : b.entries.Perm other.entries := (List.reverse_perm b.entries).symm
  exact ⟨free, perm, (interpolate_perm free perm ":a:b::ab:c:cc").1, by decide⟩

-- The order does matter if one name starts another, and if a colon lets one placeholder end within
-- another.
example
    : interpolate ":ab" (some (.ofList [("a", .text "1"), ("ab", .text "2")])) = "1b"
      ∧ interpolate ":ab" (some (.ofList [("ab", .text "2"), ("a", .text "1")])) = "2"
      ∧ interpolate ":a:b" (some (.ofList [("a:b", .text "1"), ("b", .text "2")])) = "1"
      ∧ interpolate ":a:b" (some (.ofList [("b", .text "2"), ("a:b", .text "1")])) = ":a2" := by
  decide

end Phrasebook
