import Phrasebook.Interpolation

/-! Filling a template one name at a time. The placeholders of the first name cut the template into
parts; each part is filled on its own with the remaining names, and the first value stands between
the filled parts.
-/

namespace Phrasebook.Interpolation

-----------------------------------------------------------------------------------------
-- Cutting, one character or placeholder at a time
-----------------------------------------------------------------------------------------

/-- The characters that are passed over leave no trace. -/
theorem cutFrom_eq_cut_drop (name : List Char) (skip : Nat) (text : List Char)
    : cutFrom name skip text = cut name (text.drop skip) := by
  induction text generalizing skip with
  | nil => simp [cut, cutFrom]
  | cons c rest ih =>
      cases skip with
      | zero => rfl
      | succ skip => exact ih skip

theorem cut_placeholder (name rest : List Char)
    : cut name (':' :: (name ++ rest)) = [] :: cut name rest := by
  rw [cut, cutFrom, if_pos ⟨rfl, by simp⟩, cutFrom_eq_cut_drop, List.drop_left]

theorem cut_cons {name text : List Char} {c : Char} (absent : ¬(':' :: name <+: c :: text))
    : cut name (c :: text) = (cut name text).modifyHead (c :: ·) := by
  rw [cut, cutFrom, if_neg, cut]
  intro occurs
  exact absent (List.cons_prefix_cons.mpr ⟨occurs.1.symm, List.isPrefixOf_iff_prefix.mp occurs.2⟩)

/-- Characters without a colon in front of a text go into its first part, by induction on them. -/
theorem cut_append_of_free (name : List Char) {front : List Char} (free : ':' ∉ front)
    (rest : List Char)
    : cut name (front ++ rest) = (cut name rest).modifyHead (front ++ ·) := by
  induction front with
  | nil => exact (congrFun List.modifyHead_id _).symm
  | cons c front ih =>
      rw [List.mem_cons, not_or] at free
      have absent : ¬(':' :: name <+: c :: (front ++ rest)) :=
        fun starts => free.1 (List.cons_prefix_cons.mp starts).1
      rw [List.cons_append, cut_cons absent, ih free.2, List.modifyHead_modifyHead]
      rfl

theorem cut_of_free (name : List Char) {text : List Char} (free : ':' ∉ text)
    : cut name text = [text] := by
  have passed := cut_append_of_free name free []
  rw [List.append_nil] at passed
  rw [passed]
  simp [cut, cutFrom]

-----------------------------------------------------------------------------------------
-- Replacing acts on every piece by itself
-----------------------------------------------------------------------------------------

/-- The characters of the pieces, one piece after another. -/
def text (fragments : List Fragment) : List Char :=
  fragments.flatMap chars

theorem text_append (left right : List Fragment) : text (left ++ right) = text left ++ text right :=
  List.flatMap_append

theorem applyAll_cons (binding : String × Value) (rest : List (String × Value))
    (fragments : List Fragment)
    : applyAll (binding :: rest) fragments = applyAll rest (apply fragments binding) := rfl

theorem apply_append (binding : String × Value) (left right : List Fragment)
    : apply (left ++ right) binding = apply left binding ++ apply right binding := by
  unfold apply
  split
  · rfl
  · exact List.flatMap_append

/-- Replacing the placeholders of all names acts on each of two sequences of pieces by itself, by
induction on the names.
-/
theorem applyAll_append (entries : List (String × Value)) (left right : List Fragment)
    : applyAll entries (left ++ right) = applyAll entries left ++ applyAll entries right := by
  induction entries generalizing left right with
  | nil => rfl
  | cons binding rest ih => rw [applyAll_cons, apply_append, ih, applyAll_cons, applyAll_cons]

theorem applyAll_nil (entries : List (String × Value)) : applyAll entries [] = [] := by
  induction entries with
  | nil => rfl
  | cons binding rest ih =>
      have none : apply [] binding = [] := by
        unfold apply
        split <;> rfl
      rw [applyAll_cons, none, ih]

/-- Inserted text is never searched, by induction on the names. -/
theorem applyAll_inserted (entries : List (String × Value)) (inserted : String)
    : applyAll entries [.inserted inserted] = [.inserted inserted] := by
  induction entries with
  | nil => rfl
  | cons binding rest ih =>
      have kept : apply [.inserted inserted] binding = [.inserted inserted] := by
        unfold apply
        split <;> rfl
      rw [applyAll_cons, kept, ih]

-----------------------------------------------------------------------------------------
-- Filling, one name at a time
-----------------------------------------------------------------------------------------

/-- Parts woven together are filled each by itself, with the inserted text in between, by induction
on the parts.
-/
theorem text_applyAll_weave (entries : List (String × Value)) (inserted : String)
    (parts : List (List Char))
    : text (applyAll entries (weave inserted parts)) =
      inserted.toList.intercalate (parts.map (fill entries)) := by
  induction parts with
  | nil => rw [weave, applyAll_nil]; rfl
  | cons part parts ih =>
      cases parts with
      | nil => simp [weave, fill, text]
      | cons next parts =>
          have pieces : weave inserted (part :: next :: parts) =
              [.template part] ++ [.inserted inserted] ++ weave inserted (next :: parts) := rfl
          have first : text (applyAll entries [.template part]) = fill entries part := rfl
          have between : text [.inserted inserted] = inserted.toList := by simp [text, chars]
          rw [pieces, applyAll_append, applyAll_append, applyAll_inserted, text_append, text_append,
            ih, first, between]
          exact List.intercalate_cons_cons.symm

theorem fill_nil (template : List Char) : fill [] template = template := by
  simp [fill, applyAll, chars]

/-- The empty name has no placeholders. -/
theorem fill_cons_empty (value : Value) (rest : List (String × Value)) (template : List Char)
    : fill (("", value) :: rest) template = fill rest template := rfl

/-- The first name cuts the template; the other names fill the parts, and never what stands between
them.
-/
theorem fill_cons {name : String} (named : name ≠ "") (value : Value)
    (rest : List (String × Value)) (template : List Char)
    : fill ((name, value) :: rest) template =
      value.display.toList.intercalate ((cut name.toList template).map (fill rest)) := by
  have woven : apply [.template template] (name, value) =
      weave value.display (cut name.toList template) := by
    simp [apply, named, replaceIn]
  calc
    fill ((name, value) :: rest) template
        = text (applyAll rest (apply [.template template] (name, value))) := rfl
    _ = value.display.toList.intercalate ((cut name.toList template).map (fill rest)) := by
      rw [woven, text_applyAll_weave]

/-- A template without a colon has no placeholders, by induction on the names. -/
theorem fill_of_free {template : List Char} (free : ':' ∉ template)
    (entries : List (String × Value))
    : fill entries template = template := by
  induction entries with
  | nil => exact fill_nil template
  | cons entry rest ih =>
      obtain ⟨name, value⟩ := entry
      by_cases empty : name = ""
      · rw [empty, fill_cons_empty, ih]
      · rw [fill_cons empty, cut_of_free name.toList free, List.map_singleton,
          List.intercalate_singleton, ih]

end Phrasebook.Interpolation
