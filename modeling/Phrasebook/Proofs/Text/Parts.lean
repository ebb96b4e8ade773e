import Phrasebook.Text.Blank
import Phrasebook.Text.Segments

/-! Cutting and trimming undo joining and padding. Joined segments are found again if none of them
holds the separator, and a text comes out of the white space around it if it has none at its ends.
-/

namespace Phrasebook.Text

/-- A text without white space at either end, such as the empty one. -/
structure Tight (text : List Char) : Prop where
  start : ∀ c ∈ text.head?, isBlank c = false
  finish : ∀ c ∈ text.getLast?, isBlank c = false

theorem tight_iff {text : List Char}
    : Tight text ↔
      text.head?.all (!isBlank ·) = true ∧ text.getLast?.all (!isBlank ·) = true := by
  simp only [Option.all_eq_true, Bool.not_eq_true']
  exact ⟨fun tight => ⟨tight.start, tight.finish⟩, fun ends => ⟨ends.1, ends.2⟩⟩

instance (text : List Char) : Decidable (Tight text) :=
  decidable_of_iff _ tight_iff.symm

/-- The run of characters with a property at the start of a text and the rest behind it are the only
parts of the text such that every character of the first has the property and the next one has not.
-/
theorem takeWhile_dropWhile_eq_iff {p : Char → Bool} {text run rest : List Char}
    : text.takeWhile p = run ∧ text.dropWhile p = rest ↔
      text = run ++ rest ∧ (∀ c ∈ run, p c) ∧ ∀ c ∈ rest.head?, p c = false := by
  constructor
  · rintro ⟨rfl, rfl⟩
    refine ⟨List.takeWhile_append_dropWhile.symm, List.all_eq_true.mp List.all_takeWhile, ?_⟩
    intro c first
    have other := List.head?_dropWhile_not p text
    rw [Option.mem_def.mp first] at other
    simpa using other
  · rintro ⟨rfl, each, ends⟩
    rw [List.takeWhile_append_of_pos each, List.dropWhile_append_of_pos each]
    cases rest with
    | nil => simp
    | cons c rest => simp [ends c rfl]

theorem trimStart_eq_iff {text rest : List Char}
    : trimStart text = rest ↔
      ∃ blanks,
        (∀ c ∈ blanks, isBlank c)
        ∧ text = blanks ++ rest
        ∧ ∀ c ∈ rest.head?, isBlank c = false := by
  constructor
  · intro trimmed
    obtain ⟨parts, blank, solid⟩ := takeWhile_dropWhile_eq_iff.mp ⟨rfl, trimmed⟩
    exact ⟨_, blank, parts, solid⟩
  · rintro ⟨blanks, blank, rfl, solid⟩
    exact (takeWhile_dropWhile_eq_iff.mpr ⟨rfl, blank, solid⟩).2

theorem trimStart_append {blanks : List Char} (blank : ∀ c ∈ blanks, isBlank c)
    (text : List Char)
    : trimStart (blanks ++ text) = trimStart text :=
  List.dropWhile_append_of_pos blank

theorem trimStart_of_start {text : List Char} (start : ∀ c ∈ text.head?, isBlank c = false)
    : trimStart text = text :=
  trimStart_eq_iff.mpr ⟨[], List.forall_mem_nil _, rfl, start⟩

/-- White space behind a text that does not end with any is taken off, by turning both around. -/
theorem trimEnd_append {text blanks : List Char} (finish : ∀ c ∈ text.getLast?, isBlank c = false)
    (blank : ∀ c ∈ blanks, isBlank c)
    : trimEnd (text ++ blanks) = text := by
  have reversed : ∀ c ∈ blanks.reverse, isBlank c := by simpa using blank
  have start : ∀ c ∈ text.reverse.head?, isBlank c = false := by
    rw [List.head?_reverse]
    exact finish
  rw [trimEnd, List.reverse_append, trimStart_append reversed, trimStart_of_start start,
    List.reverse_reverse]

/-- Trimming takes white space off both ends of a text that has none at its own ends. -/
theorem trim_padded {before text after : List Char} (blankBefore : ∀ c ∈ before, isBlank c)
    (tight : Tight text) (blankAfter : ∀ c ∈ after, isBlank c)
    : trim (before ++ text ++ after) = text := by
  rw [trim, List.append_assoc, trimStart_append blankBefore]
  cases text with
  | nil =>
      -- Nothing stands between the blanks, so those behind are passed over from the front.
      have passed := trimStart_append blankAfter []
      rw [List.append_nil] at passed
      rw [List.nil_append, passed]
      rfl
  | cons c rest =>
      have kept : trimStart (c :: rest ++ after) = c :: rest ++ after :=
        trimStart_of_start tight.start
      rw [kept, trimEnd_append tight.finish blankAfter]

/-- The first separator is the one behind a part that holds none, by induction on that part. -/
theorem cutOnce_append {separator : Char} {before : List Char} (free : separator ∉ before)
    (after : List Char)
    : cutOnce separator (before ++ separator :: after) = some (before, after) := by
  induction before with
  | nil => simp [cutOnce]
  | cons c rest ih =>
      simp only [List.mem_cons, not_or] at free
      rw [List.cons_append, cutOnce, if_neg (Ne.symm free.1), ih free.2]
      rfl

/-- No part between separators holds one, by induction on the text: every character but a separator
is put in front of the first part of the rest.
-/
theorem not_mem_of_mem_splitOn {separator : Char} {text part : List Char}
    (member : part ∈ text.splitOn separator)
    : separator ∉ part := by
  suffices free : ∀ part ∈ text.splitOn separator, separator ∉ part from free part member
  clear member
  induction text with
  | nil => simp
  | cons c rest ih =>
      obtain ⟨first, others, eq⟩ := List.exists_cons_of_ne_nil (List.splitOn_ne_nil separator rest)
      rw [eq, List.forall_mem_cons] at ih
      rw [List.splitOn_cons_eq_if_modifyHead, eq]
      split
      · simpa using ih
      · next ne =>
          rw [List.modifyHead_cons, List.forall_mem_cons, List.mem_cons, not_or]
          exact ⟨⟨fun same => ne (by simp [same]), ih.1⟩, ih.2⟩

theorem not_mem_of_mem_segments {separator : Char} {text segment : String}
    (member : segment ∈ segments separator text)
    : separator ∉ segment.toList := by
  obtain ⟨part, within, rfl⟩ := List.mem_map.mp member
  rw [String.toList_ofList]
  exact not_mem_of_mem_splitOn within

/-- The first segment is empty only in the empty text and in front of a separator. -/
theorem head?_segments_eq_empty_iff {separator : Char} {text : String}
    : (segments separator text).head? = some "" ↔
      text = "" ∨ text.toList.head? = some separator := by
  rw [← String.toList_eq_nil_iff, segments]
  cases text.toList with
  | nil => simp
  | cons c rest =>
      obtain ⟨first, others, eq⟩ := List.exists_cons_of_ne_nil (List.splitOn_ne_nil separator rest)
      rw [List.splitOn_cons_eq_if_modifyHead, eq]
      by_cases same : c = separator
      · simp [same]
      · simp [same, ← String.toList_inj]

/-- Parts joined with a separator that none of them holds are found again. -/
theorem segments_intercalate {separator : Char} {parts : List String} (nonempty : parts ≠ [])
    (free : ∀ part ∈ parts, separator ∉ part.toList)
    : segments separator ((String.singleton separator).intercalate parts) = parts := by
  have found : ([separator].intercalate (parts.map String.toList)).splitOn separator =
      parts.map String.toList := by
    refine List.splitOn_intercalate separator ?_ (by simpa using nonempty)
    intro chars member
    obtain ⟨part, within, rfl⟩ := List.mem_map.mp member
    exact free part within
  rw [segments, String.toList_intercalate, String.toList_singleton, found, List.map_map]
  simp [Function.comp_def]

/-- What stands before the first separator is the first segment. -/
theorem segments_append {separator : Char} {first : String} (free : separator ∉ first.toList)
    (text : String)
    : segments separator (first ++ String.singleton separator ++ text) =
      first :: segments separator text := by
  have parts : (first ++ String.singleton separator ++ text).toList =
      first.toList ++ separator :: text.toList := by
    simp
  rw [segments, parts, List.splitOn_append_cons_self_of_not_mem free, List.map_cons,
    String.ofList_toList, segments]

theorem exists_segments_eq_cons (separator : Char) (text : String)
    : ∃ first rest, segments separator text = first :: rest :=
  List.exists_cons_of_ne_nil (by simp [segments, List.splitOn_ne_nil])

/-- A text is its segments joined with the separator. -/
theorem intercalate_segments (separator : Char) (text : String)
    : (String.singleton separator).intercalate (segments separator text) = text := by
  rw [← String.toList_inj, String.toList_intercalate, String.toList_singleton, segments,
    List.map_map]
  simp [Function.comp_def]

end Phrasebook.Text
