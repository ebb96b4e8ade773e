import Phrasebook.Proofs.Interpolation.Recursion

/-! Filling a template as a recursion over the names. The placeholders of the first name are its
occurrences, found from left to right. They cut the template into parts, the other names fill each
part, and the value of the first name stands between the filled parts.
-/

namespace Phrasebook

namespace Interpolation

/-- The parts of a text around the occurrences of a token. The first occurrence ends the first part,
and the search goes on behind it, so occurrences do not overlap.
-/
inductive Parts (token : List Char) : List Char → List (List Char) → Prop
  | whole {text : List Char} (absent : ¬token <:+: text)
    : Parts token text [text]
  | next {before rest : List Char} {parts : List (List Char)}
    (first
      : ∀ earlier later,
          before ++ token ++ rest = earlier ++ token ++ later → before.length ≤ earlier.length)
    (more : Parts token rest parts)
    : Parts token (before ++ token ++ rest) (before :: parts)

namespace Parts

variable {token text : List Char} {parts : List (List Char)}

theorem ne_nil (h : Parts token text parts) : parts ≠ [] := by
  cases h <;> simp

/-- Joined with the token, the parts are the text again, by induction on the occurrences. -/
theorem intercalate_eq (h : Parts token text parts) : token.intercalate parts = text := by
  induction h with
  | whole absent => exact List.intercalate_singleton
  | @next before rest parts first more ih =>
      rw [List.intercalate_cons_of_ne_nil more.ne_nil, ih]

/-- A text is cut in one way only, by induction on the occurrences: neither of two first occurrences
stands before the other.
-/
theorem unique {others : List (List Char)} (h : Parts token text parts)
    (h' : Parts token text others)
    : others = parts := by
  induction h generalizing others with
  | whole absent =>
      cases h' with
      | whole => rfl
      | @next before rest => exact absurd ⟨before, rest, rfl⟩ absent
  | @next before rest parts first more ih =>
      generalize eq : before ++ token ++ rest = text at h'
      cases h' with
      | whole absent => exact absurd ⟨before, rest, eq⟩ absent
      | @next before' rest' parts' first' more' =>
          have length : before.length = before'.length :=
            Nat.le_antisymm (first before' rest' eq) (first' before rest eq.symm)
          rw [List.append_assoc, List.append_assoc] at eq
          obtain ⟨same, behind⟩ := List.append_inj eq length
          obtain rfl := List.append_cancel_left behind
          rw [same, ih more']

/-- A character at which the token does not occur belongs to the first part. -/
theorem cons {c : Char} (h : Parts token text parts) (absent : ¬token <+: c :: text)
    : Parts token (c :: text) (parts.modifyHead (c :: ·)) := by
  cases h with
  | whole nowhere =>
      refine .whole fun within => ?_
      rcases List.infix_cons_iff.mp within with here | later
      · exact absent here
      · exact nowhere later
  | @next before rest parts first more =>
      refine @Parts.next _ (c :: before) rest parts (fun earlier later eq => ?_) more
      cases earlier with
      | nil => exact absurd ⟨later, eq.symm⟩ absent
      | cons d earlier => exact Nat.succ_le_succ (first earlier later (List.cons.inj eq).2)

end Parts

-----------------------------------------------------------------------------------------
-- Cutting finds the occurrences
-----------------------------------------------------------------------------------------

/-- Cutting a text at a name finds the parts around its placeholders, by induction on the length of
the text: behind a placeholder the text is shorter.
-/
theorem parts_cut (name text : List Char) : Parts (':' :: name) text (cut name text) := by
  induction length : text.length using Nat.strongRecOn generalizing text with
  | ind n ih =>
      cases text with
      | nil => exact .whole (by simp)
      | cons c text =>
          by_cases occurs : ':' :: name <+: c :: text
          · obtain ⟨rest, eq⟩ := occurs
            obtain ⟨rfl, rfl⟩ := List.cons.inj eq
            have shorter : rest.length < n := by
              rw [← length, List.length_cons, List.append_eq, List.length_append]
              omega
            rw [List.append_eq, cut_placeholder]
            exact @Parts.next _ [] rest _ (fun _ _ _ => Nat.zero_le _) (ih _ shorter rest rfl)
          · rw [cut_cons occurs]
            exact (ih text.length (by simp [← length]) text rfl).cons occurs

theorem parts_iff {name text : List Char} {parts : List (List Char)}
    : Parts (':' :: name) text parts ↔ parts = cut name text := by
  constructor
  · exact (parts_cut name text).unique
  · rintro rfl
    exact parts_cut name text

theorem cut_ne_nil (name text : List Char) : cut name text ≠ [] :=
  (parts_cut name text).ne_nil

/-- A placeholder of the first name at the start of a template gives way to its value. -/
theorem fill_cons_placeholder {name : String} (named : name ≠ "") (value : Value)
    (others : List (String × Value)) (rest : List Char)
    : fill ((name, value) :: others) (':' :: name.toList ++ rest) =
      value.display.toList ++ fill ((name, value) :: others) rest := by
  have more : (cut name.toList rest).map (fill others) ≠ [] := by
    simpa using cut_ne_nil name.toList rest
  rw [List.cons_append, fill_cons named, fill_cons named, cut_placeholder, List.map_cons,
    List.intercalate_cons_of_ne_nil more, fill_of_free List.not_mem_nil, List.nil_append]

end Interpolation

open Interpolation

/-- Without names a template stays as it is, and an empty name does nothing. Any other first name
cuts the template into the parts around its placeholders, which joined again are the template, and
its value stands between the parts filled by the other names.
-/
theorem interpolate_recursion (template : String) (b : Bindings)
    : (b.entries = [] → interpolate template (some b) = template)
      ∧ ∀ name value others, b.entries = (name, value) :: others →
          ∃ rest : Bindings, rest.entries = others
            ∧ (name = "" → interpolate template (some b) = interpolate template (some rest))
            ∧ (name ≠ "" →
                ∃ parts,
                  (∀ cutting, Parts (':' :: name.toList) template.toList cutting ↔ cutting = parts)
                  ∧ (':' :: name.toList).intercalate parts = template.toList
                  ∧ interpolate template (some b) =
                      value.display.intercalate
                        (parts.map fun part => interpolate (String.ofList part) (some rest))) := by
  refine ⟨?_, ?_⟩
  · intro empty
    rw [interpolate, empty, fill_nil, String.ofList_toList]
  · intro name value others first
    have distinct : Ordered.Distinct others := by
      have all := b.distinct
      rw [first] at all
      exact (List.nodup_cons.mp all).2
    refine ⟨⟨others, distinct⟩, rfl, ?_, ?_⟩
    · rintro rfl
      rw [interpolate, first, fill_cons_empty]
      rfl
    · intro named
      refine ⟨cut name.toList template.toList, fun _ => parts_iff,
        (parts_cut name.toList template.toList).intercalate_eq, ?_⟩
      rw [← String.toList_inj, interpolate, first, fill_cons named, String.toList_ofList,
        String.toList_intercalate, List.map_map]
      simp [interpolate, Function.comp_def]

/-- A name takes the placeholder of a longer one, and its value is not searched for other names. -/
theorem interpolate_shorter_name_first
    : let b := Bindings.ofList [("a", .text ":b"), ("b", .text "X")]
      "a" ≠ "" ∧ b.entries = [("a", .text ":b"), ("b", .text "X")]
        ∧ interpolate ":ab:a :b" (some b) = ":bb:b X" := by
  intro b
  have entries : b.entries = [("a", .text ":b"), ("b", .text "X")] := rfl
  have named : "a" ≠ "" := by decide
  obtain ⟨⟨others, distinct⟩, rfl, -, filled⟩ :=
    (interpolate_recursion ":ab:a :b" b).2 "a" (.text ":b") _ entries
  obtain ⟨parts, only, -, eq⟩ := filled named
  obtain rfl := (only _).mp (parts_cut ['a'] ":ab:a :b".toList)
  refine ⟨named, entries, eq.trans ?_⟩
  rfl

end Phrasebook
