import Phrasebook.Proofs.Interpolation.Reference

/-! Bindings that do nothing. A name whose placeholder does not occur in the template may be left
out, also if a value spells that placeholder; and names bound to their own placeholders put back
what they take out, even if their placeholders overlap.
-/

namespace Phrasebook

/-- The bindings without the name, in the same order. -/
def Bindings.erase (b : Bindings) (name : String) : Bindings where
  entries := b.entries.filter (·.1 ≠ name)
  distinct := (List.filter_sublist.map Prod.fst).nodup b.distinct

namespace Interpolation

variable {token text : List Char} {parts : List (List Char)} {entries : List (String × Value)}

/-- What occurs in a part occurs in the text, by induction on the occurrences of the token. -/
theorem Parts.infix_of_mem (h : Parts token text parts) {part : List Char} (member : part ∈ parts)
    : part <:+: text := by
  induction h with
  | whole absent => exact List.mem_singleton.mp member ▸ List.infix_rfl
  | @next before rest parts first more ih =>
      rcases List.mem_cons.mp member with rfl | later
      · rw [List.append_assoc]
        exact (List.prefix_append part _).isInfix
      · exact (ih later).trans (List.suffix_append _ rest).isInfix

theorem cut_of_absent {name : List Char} (absent : ¬(':' :: name <:+: text))
    : cut name text = [text] :=
  (parts_iff.mp (.whole absent)).symm

/-- An entry whose placeholder does not occur does nothing. -/
theorem fill_cons_of_absent {name : String} (absent : ¬(':' :: name.toList <:+: text))
    (value : Value) (rest : List (String × Value))
    : fill ((name, value) :: rest) text = fill rest text := by
  by_cases empty : name = ""
  · rw [empty, fill_cons_empty]
  · rw [fill_cons empty, cut_of_absent absent, List.map_singleton, List.intercalate_singleton]

/-- Entries that fill everything within a text alike do so behind one more entry. -/
theorem fill_cons_congr {others : List (String × Value)} (entry : String × Value)
    (alike : ∀ part, part <:+: text → fill entries part = fill others part)
    : fill (entry :: entries) text = fill (entry :: others) text := by
  obtain ⟨name, value⟩ := entry
  by_cases empty : name = ""
  · rw [empty, fill_cons_empty, fill_cons_empty, alike text List.infix_rfl]
  · have each : ∀ part ∈ cut name.toList text, fill entries part = fill others part :=
      fun part member => alike part ((parts_cut name.toList text).infix_of_mem member)
    rw [fill_cons empty, fill_cons empty, List.map_congr_left each]

/-- Entries whose placeholders do not occur may be left out, by induction on the entries: within a
part of the text they do not occur either.
-/
theorem fill_filter {keep : String × Value → Bool}
    (absent : ∀ entry ∈ entries, keep entry = false → ¬(':' :: entry.1.toList <:+: text))
    : fill (entries.filter keep) text = fill entries text := by
  induction entries generalizing text with
  | nil => rfl
  | cons entry rest ih =>
      obtain ⟨first, later⟩ := List.forall_mem_cons.mp absent
      cases kept : keep entry with
      | false =>
          rw [List.filter_cons_of_neg (by simp [kept]), ih later]
          exact (fill_cons_of_absent (first kept) entry.2 rest).symm
      | true =>
          rw [List.filter_cons_of_pos kept]
          refine fill_cons_congr entry fun part within => ih fun other member dropped occurs => ?_
          exact later other member dropped (occurs.trans within)

/-- Names that are bound to their own placeholders leave the text as it is, by induction on the
names: the parts are filled with themselves and joined with the placeholder that cut them.
-/
theorem fill_of_own (own : ∀ entry ∈ entries, entry.2 = .text (":" ++ entry.1))
    : fill entries text = text := by
  induction entries generalizing text with
  | nil => exact fill_nil text
  | cons entry rest ih =>
      obtain ⟨name, value⟩ := entry
      obtain ⟨first, later⟩ := List.forall_mem_cons.mp own
      by_cases empty : name = ""
      · rw [empty, fill_cons_empty, ih later]
      · have bound : value = .text (":" ++ name) := first
        have shown : value.display.toList = ':' :: name.toList := by simp [bound, Value.display]
        have kept : (cut name.toList text).map (fill rest) = cut name.toList text :=
          List.map_id'' (fun _ => ih later) _
        rw [fill_cons empty, kept, shown, (parts_cut name.toList text).intercalate_eq]

/-- The value of the first name stands in the text if the placeholder of the name occurs. -/
theorem infix_fill_cons {name : String} (named : name ≠ "") (value : Value)
    (rest : List (String × Value)) (occurs : ':' :: name.toList <:+: text)
    : value.display.toList <:+: fill ((name, value) :: rest) text := by
  rw [fill_cons named]
  generalize cutting : cut name.toList text = parts
  cases parts_iff.mpr cutting.symm with
  | whole absent => exact absurd occurs absent
  | @next before behind parts first more =>
      rw [List.map_cons, List.intercalate_cons_of_ne_nil (by simpa using more.ne_nil)]
      exact List.infix_append _ _ _

end Interpolation

/-- A binding is neutral if the placeholder of its name does not occur in the template, wherever it
stands among the others, and bindings of names to their own placeholders are neutral together. A
binding that stands first and whose placeholder does occur is not: its value is in the text.
-/
theorem interpolate_neutral (template : String) (b : Bindings)
    : (∀ name,
        ¬(':' :: name.toList <:+: template.toList)
        → interpolate template (some (b.erase name)) = interpolate template (some b))
      ∧ ((∀ entry ∈ b.entries, entry.2 = .text (":" ++ entry.1))
          → interpolate template (some b) = template)
      ∧ ∀ name value others,
          b.entries = (name, value) :: others
          → name ≠ ""
          → ':' :: name.toList <:+: template.toList
          → value.display.toList <:+: (interpolate template (some b)).toList := by
  refine ⟨?_, ?_, ?_⟩
  · intro name absent
    refine congrArg String.ofList (Interpolation.fill_filter ?_)
    intro entry _ dropped
    have erased : entry.1 = name := by simpa using dropped
    rwa [erased]
  · intro own
    rw [interpolate, Interpolation.fill_of_own own, String.ofList_toList]
  · intro name value others first named occurs
    rw [interpolate, String.toList_ofList, first]
    exact Interpolation.infix_fill_cons named value others occurs

/-- A name is left out although a value before it spells its placeholder, and names that overlap put
back their placeholders.
-/
theorem interpolate_spelled_placeholder
    : let b := Bindings.ofList [("a", .text ":z"), ("z", .text "X"), ("b", .text "Y")]
      let own := Bindings.ofList
        [("a:b", .text ":a:b"), ("b", .text ":b"), ("", .text ":"), ("ab", .text ":ab")]
      ¬(':' :: "z".toList <:+: ":ab :b".toList)
        ∧ b.erase "z" = Bindings.ofList [("a", .text ":z"), ("b", .text "Y")]
        ∧ interpolate ":ab :b" (some (b.erase "z")) = interpolate ":ab :b" (some b)
        ∧ interpolate ":ab :b" (some b) = ":zb Y"
        ∧ (Value.text ":z").display.toList <:+: (interpolate ":ab :b" (some b)).toList
        ∧ (∀ entry ∈ own.entries, entry.2 = .text (":" ++ entry.1))
        ∧ interpolate "::ab:a:b:ab" (some own) = "::ab:a:b:ab" := by
  intro b own
  have absent : ¬(':' :: "z".toList <:+: ":ab :b".toList) := by decide +kernel
  have bound : ∀ entry ∈ own.entries, entry.2 = .text (":" ++ entry.1) := by
    simp [own, Bindings.ofList, Ordered.collect, Ordered.insertAll, Ordered.insert]
  obtain ⟨erased, -, shown⟩ := interpolate_neutral ":ab :b" b
  obtain ⟨-, restored, -⟩ := interpolate_neutral "::ab:a:b:ab" own
  exact ⟨absent, rfl, erased "z" absent, rfl,
    shown "a" (.text ":z") _ rfl (by decide) (by decide), bound, restored bound⟩

end Phrasebook
