import Mathlib.Data.List.TakeWhile
import Phrasebook.Proofs.Lint.DeadForms
import Phrasebook.Proofs.Lint.Segments

/-! Templates that lint says nothing about. These are the templates whose tags work: what starts like
a tag is one, every range contains a count, and no number comes twice. Each number of such a template
is answered by its own form.
-/

namespace Phrasebook

open Phrasebook.Text PluralForm

/-- Whether the first character of the form that is not white space opens a tag. -/
def OpensTag (form : String) : Prop :=
  ∃ c ∈ form.toList.find? (!isBlank ·), c ∈ ['\x7b', '[']

/-- Requires a form that starts like one with a tag to have one, and its range, if that is what the
tag is, to contain a count.
-/
structure TagWorks (form : String) : Prop where
  read : OpensTag form → (parse form).tag ≠ none
  met
    : ∀ first last,
        (parse form).tag = some (.range first last) → ∃ count, (parse form).admits count = true

/-- Requires two forms not to have the same number for a tag. -/
def NumbersDiffer (form other : String) : Prop :=
  ∀ n, (parse form).tag = some (.exact n) → (parse other).tag ≠ some (.exact n)

/-- Requires the tag of each form to work, and no two of them to be the same number. -/
structure TagsWork (forms : List String) : Prop where
  each : ∀ form ∈ forms, TagWorks form
  numbers : forms.Pairwise NumbersDiffer

-----------------------------------------------------------------------------------------
-- The warnings about one form
-----------------------------------------------------------------------------------------

theorem looksTagged_iff {form : String} : looksTagged form = true ↔ OpensTag form := by
  rw [OpensTag, List.find?_not_eq_head?_dropWhile, looksTagged, trimStart]
  cases form.toList.dropWhile isBlank with
  | nil => simp
  | cons c rest => split <;> simp_all

/-- A range contains a count unless it ends before it starts, since its first number is one. -/
theorem exists_admits_range_iff {first : Int64} {last : Option Int64}
    : (∃ count, (Tag.range first last).admits count = true) ↔ ∀ n ∈ last, ¬n < first := by
  constructor
  · intro inhabited n bound crossed
    obtain ⟨count, inside⟩ := inhabited
    obtain rfl : last = some n := bound
    obtain ⟨above, below⟩ : first ≤ count ∧ count ≤ n := by simpa [Tag.admits] using inside
    rw [Int64.le_iff_toInt_le] at above below
    rw [Int64.lt_iff_toInt_lt] at crossed
    omega
  · intro ordered
    refine ⟨first, ?_⟩
    cases last with
    | none => simp [Tag.admits]
    | some last =>
        have bounded : first ≤ last := Int64.not_lt.mp (ordered last rfl)
        simpa [Tag.admits] using bounded

theorem exactCount?_eq_some_iff {form : String} {n : Int64}
    : exactCount? form = some n ↔ (parse form).tag = some (.exact n) := by
  rw [exactCount?]
  rcases (parse form).tag with _ | (m | ⟨first, last⟩) <;> simp

theorem tagWorks_iff {form : String}
    : TagWorks form ↔
      (looksTagged form = true → (parse form).tag ≠ none)
      ∧ ∀ first last, (parse form).tag = some (.range first last) → ∀ n ∈ last, ¬n < first := by
  have met {first last} (range : (parse form).tag = some (.range first last))
      : (∃ count, (parse form).admits count = true) ↔ ∀ n ∈ last, ¬n < first := by
    rw [← exists_admits_range_iff]
    simp [admits, range]
  rw [looksTagged_iff]
  constructor
  · intro works
    exact ⟨works.read, fun first last range => (met range).mp (works.met first last range)⟩
  · intro both
    obtain ⟨read, ordered⟩ := both
    exact ⟨read, fun first last range => (met range).mpr (ordered first last range)⟩

/-- A form has no warning if its tag works and is none of the numbers seen. -/
theorem formWarnings_eq_nil_iff {key form : String} {seen : List Int64}
    : formWarnings key seen form = [] ↔
      TagWorks form ∧ ∀ n ∈ seen, (parse form).tag ≠ some (.exact n) := by
  rw [tagWorks_iff, formWarnings]
  rcases (parse form).tag with _ | (m | ⟨first, _ | last⟩)
  · simp
  · have fresh : m ∉ seen ↔ ∀ n ∈ seen, m ≠ n := by grind
    simpa using fresh
  · simp
  · simp

-----------------------------------------------------------------------------------------
-- The warnings about a template
-----------------------------------------------------------------------------------------

theorem tagsWork_cons_iff {form : String} {rest : List String}
    : TagsWork (form :: rest) ↔
      TagWorks form ∧ (∀ other ∈ rest, NumbersDiffer form other) ∧ TagsWork rest := by
  constructor
  · intro work
    obtain ⟨here, later⟩ := List.forall_mem_cons.mp work.each
    obtain ⟨first, others⟩ := List.pairwise_cons.mp work.numbers
    exact ⟨here, first, later, others⟩
  · intro parts
    obtain ⟨here, first, later, others⟩ := parts
    exact ⟨List.forall_mem_cons.mpr ⟨here, later⟩, List.pairwise_cons.mpr ⟨first, others⟩⟩

/-- After some numbers, forms have no warning if their tags work and are none of those numbers, by
induction on the forms: each form adds its own number to those the later ones must not have.
-/
theorem lintForms_eq_nil_iff {key : String} {seen : List Int64} {forms : List String}
    : lintForms key seen forms = [] ↔
      TagsWork forms ∧ ∀ form ∈ forms, ∀ n ∈ seen, (parse form).tag ≠ some (.exact n) := by
  induction forms generalizing seen with
  | nil => simp [lintForms, TagsWork.mk]
  | cons form rest ih =>
      have own {other : String}
          : (∀ n ∈ (exactCount? form).toList ++ seen, (parse other).tag ≠ some (.exact n)) ↔
            NumbersDiffer form other ∧ ∀ n ∈ seen, (parse other).tag ≠ some (.exact n) := by
        simp only [List.mem_append, Option.mem_toList, exactCount?_eq_some_iff, or_imp, forall_and]
        rfl
      rw [lintForms, List.append_eq_nil_iff, formWarnings_eq_nil_iff, ih, tagsWork_cons_iff,
        List.forall_mem_cons]
      simp only [own]
      grind

/-- A number is answered by its own form, since no form before has it, by induction on the forms. -/
theorem tagged_of_numbersDiffer {forms : List String} (differ : forms.Pairwise NumbersDiffer)
    {form : String} (member : form ∈ forms) {n : Int64}
    (number : (parse form).tag = some (.exact n))
    : tagged true n (forms.map parse) = some (parse form).text := by
  induction forms with
  | nil => contradiction
  | cons first rest ih =>
      obtain ⟨here, later⟩ := List.pairwise_cons.mp differ
      rw [List.map_cons, tagged_cons]
      rcases List.mem_cons.mp member with rfl | within
      · rw [if_pos (answers_exact_iff.mpr (exactCount?_eq_some_iff.mpr number))]
      · have other : ¬(parse first).answers true n = true := by
          rw [answers_exact_iff, exactCount?_eq_some_iff]
          exact fun same => here form within n same number
        rw [if_neg other, ih later within]

theorem select_of_numbersDiffer {forms : List String} (differ : forms.Pairwise NumbersDiffer)
    {form : String} (member : form ∈ forms) {n : Int64}
    (number : (parse form).tag = some (.exact n))
    : select n forms = some (parse form).text := by
  simp only [select, tagged_of_numbersDiffer differ member number]

-----------------------------------------------------------------------------------------
-- The warnings about the templates of a dictionary
-----------------------------------------------------------------------------------------

theorem key_of_mem_lintForms {key : String} {seen : List Int64} {forms : List String}
    {warning : Warning} (member : warning ∈ lintForms key seen forms)
    : warning.key = key := by
  induction forms generalizing seen with
  | nil => contradiction
  | cons form rest ih =>
      rcases List.mem_append.mp member with own | later
      · unfold formWarnings at own
        grind [Warning.key]
      · exact ih later

/-- The warnings about forms are those about the templates of the leaves. -/
theorem aboutForm_mem_lint_iff {d : Dictionary} {warning : Warning}
    (about : warning.isAboutForm = true)
    : warning ∈ d.lint ↔
      ∃ template,
        (warning.key, Entry.text template) ∈ d.leaves
        ∧ warning ∈ lintForms warning.key [] (formsOf template) := by
  rw [Dictionary.lint, List.mem_append, List.mem_flatMap]
  constructor
  · intro listed
    rcases listed with segment | ⟨⟨path, leaf⟩, within, member⟩
    · obtain ⟨key, rfl⟩ := Entry.exists_unreachable_of_mem_dottedBelow segment
      contradiction
    · cases leaf with
      | text template =>
          have here : warning.key = path := key_of_mem_lintForms member
          exact ⟨template, here ▸ within, here ▸ member⟩
      | nested entries => contradiction
      | other value =>
          obtain rfl := List.mem_singleton.mp member
          contradiction
  · intro leaf
    obtain ⟨template, within, member⟩ := leaf
    exact .inr ⟨_, within, member⟩

theorem lint_silent_at_iff {d : Dictionary} {path : String}
    : (∀ warning ∈ d.lint, warning.isAboutForm = true → warning.key ≠ path) ↔
      ∀ template, (path, Entry.text template) ∈ d.leaves → TagsWork (formsOf template) := by
  constructor
  · intro silent template within
    have quiet : lintForms path [] (formsOf template) = [] := by
      refine List.eq_nil_iff_forall_not_mem.mpr fun warning member => ?_
      have about := isAboutForm_of_mem_lintForms member
      obtain rfl := key_of_mem_lintForms member
      have listed := (aboutForm_mem_lint_iff about).mpr ⟨template, within, member⟩
      exact silent warning listed about rfl
    exact (lintForms_eq_nil_iff.mp quiet).1
  · intro work warning listed about here
    subst here
    obtain ⟨template, within, member⟩ := (aboutForm_mem_lint_iff about).mp listed
    have quiet : lintForms warning.key [] (formsOf template) = [] :=
      lintForms_eq_nil_iff.mpr ⟨work template within, by simp⟩
    rw [quiet] at member
    contradiction

/-- Lint has no warning for the template of a leaf exactly if its tags work, and it has none about the
forms at a path exactly if the tags of all templates at that path work. Each number for a tag is then
answered by the text of its own form.
-/
theorem silent_iff_tagsWork (path : String)
    : (∀ template, lintLeaf (path, .text template) = [] ↔ TagsWork (formsOf template))
      ∧ (∀ d : Dictionary,
          (∀ warning ∈ d.lint, warning.isAboutForm = true → warning.key ≠ path) ↔
            ∀ template, (path, Entry.text template) ∈ d.leaves → TagsWork (formsOf template))
      ∧ ∀ template,
          TagsWork (formsOf template) →
            ∀ form ∈ formsOf template,
              ∀ n,
                (parse form).tag = some (.exact n) →
                  select n (formsOf template) = some (parse form).text := by
  refine ⟨fun template => ?_, fun d => lint_silent_at_iff, ?_⟩
  · rw [lintLeaf, lintForms_eq_nil_iff]
    simp
  · intro template work form member n number
    exact select_of_numbersDiffer work.numbers member number

/-- A number is answered past a range that contains it, and the warning about another leaf makes no
difference.
-/
theorem silent_template_selects
    : let template := "other| [1-5] few|\t{3}  three|{0}none"
      let d : Dictionary := ⟨[("m", .text "[2-1] odd"), ("n", .text template)]⟩
      d.lint = [.emptyRange "m" "[2-1] odd"]
        ∧ lintLeaf ("n", .text template) = []
        ∧ select 3 (formsOf template) = some " three" := by
  intro template d
  have found : d.lint = [.emptyRange "m" "[2-1] odd"] := by decide
  have leaf : ("n", Entry.text template) ∈ d.leaves := List.mem_cons_of_mem _ List.mem_cons_self
  have work : TagsWork (formsOf template) := by
    refine ((silent_iff_tagsWork "n").2.1 d).mp ?_ template leaf
    rw [found]
    decide
  refine ⟨found, ((silent_iff_tagsWork "n").1 template).mpr work, ?_⟩
  exact (silent_iff_tagsWork "n").2.2 template work "\t{3}  three" (by decide) 3 (by decide)

end Phrasebook
