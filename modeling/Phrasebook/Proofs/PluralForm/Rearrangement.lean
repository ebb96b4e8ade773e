import Phrasebook.Proofs.PluralForm.Selection

/-! The order of plural forms. Numbers, ranges and forms without a tag may stand among each other in
any order, and so may the forms of one kind of tag if at most one of them admits the count.
-/

namespace Phrasebook.PluralForm

/-- What a form has for a tag: one number, a range, or nothing. -/
inductive Kind where
  | exact
  | range
  | plain
  deriving DecidableEq

def kind (form : PluralForm) : Kind :=
  match form.tag with
  | some (.exact _) => .exact
  | some (.range _ _) => .range
  | none => .plain

/-- The forms of one kind, in their order. -/
def ofKind (kind : Kind) (forms : List String) : List String :=
  forms.filter fun form => (parse form).kind = kind

/-- The forms of one kind whose tags admit the count, in their order. -/
def admitting (kind : Kind) (count : Int64) (forms : List String) : List String :=
  (ofKind kind forms).filter fun form => (parse form).admits count

/-- Requires that the forms of a kind keep their order, or that at most one of them admits the
count.
-/
def KeepsFirst (kind : Kind) (count : Int64) (forms others : List String) : Prop :=
  ofKind kind forms = ofKind kind others ∨ (admitting kind count forms).length ≤ 1

-----------------------------------------------------------------------------------------
-- The choice of a form reads each kind by itself
-----------------------------------------------------------------------------------------

theorem tagged_eq_find? (exact : Bool) (count : Int64) (forms : List PluralForm)
    : tagged exact count forms = (forms.find? (·.answers exact count)).map (·.text) := by
  induction forms with
  | nil => rfl
  | cons form rest ih =>
      rw [tagged_cons, List.find?_cons, ih]
      cases form.answers exact count <;> rfl

theorem answers_eq_and (exact : Bool) (count : Int64) (form : PluralForm)
    : form.answers exact count =
      (form.admits count && decide (form.kind = if exact then .exact else .range)) := by
  obtain ⟨tag, text⟩ := form
  rcases tag with _ | (n | ⟨first, last⟩)
  · rfl
  · cases exact <;> simp [answers, admits, kind, Tag.isExact]
  · cases exact <;> simp [answers, admits, kind, Tag.isExact]

/-- The answer among the forms of a kind is the text of the first one that admits the count. -/
theorem tagged_eq_head? (exact : Bool) (count : Int64) (forms : List String)
    : tagged exact count (forms.map parse) =
      (admitting (if exact then .exact else .range) count forms).head?.map
        fun form => (parse form).text := by
  have same : (fun form => (parse form).answers exact count) = fun form =>
      (parse form).admits count
        && decide ((parse form).kind = if exact then Kind.exact else .range) := by
    funext form
    exact answers_eq_and exact count (parse form)
  rw [tagged_eq_find?, List.find?_map, Option.map_map, admitting, ofKind, List.filter_filter,
    ← List.head?_filter, ← same]
  rfl

theorem untagged_eq_map (forms : List String)
    : untagged (forms.map parse) = (ofKind .plain forms).map fun form => (parse form).text := by
  have same : (fun form => (parse form).tag.isNone) = fun form =>
      decide ((parse form).kind = .plain) := by
    funext form
    rw [kind]
    rcases (parse form).tag with _ | (n | ⟨first, last⟩) <;> rfl
  rw [untagged, List.filter_map, List.map_map, ofKind, ← same]
  rfl

-----------------------------------------------------------------------------------------
-- Rearranged forms
-----------------------------------------------------------------------------------------

variable {count : Int64} {forms others : List String}

/-- A list with at most one member has no other order. -/
theorem admitting_eq {kind : Kind} (perm : forms.Perm others)
    (keeps : KeepsFirst kind count forms others)
    : admitting kind count forms = admitting kind count others := by
  rcases keeps with ordered | single
  · rw [admitting, admitting, ordered]
  · have moved : (admitting kind count forms).Perm (admitting kind count others) :=
      (perm.filter _).filter _
    cases eq : admitting kind count forms with
    | nil =>
        rw [eq] at moved
        exact moved.nil_eq
    | cons form rest =>
        rw [eq] at moved single
        obtain rfl : rest = [] := List.eq_nil_of_length_eq_zero (by simpa using single)
        exact moved.singleton_eq

theorem tagged_eq_of_perm (exact : Bool) (perm : forms.Perm others)
    (keeps : KeepsFirst (if exact then .exact else .range) count forms others)
    : tagged exact count (forms.map parse) = tagged exact count (others.map parse) := by
  rw [tagged_eq_head?, tagged_eq_head?, admitting_eq perm keeps]

/-- Rearranged forms have the same text for a count if the forms without a tag keep their order, and
those with a number and those with a range keep theirs or have at most one that admits the count.
Some form must have no tag or admit the count.
-/
theorem select_rearranged (perm : forms.Perm others)
    (plain : ofKind .plain forms = ofKind .plain others)
    (exact : KeepsFirst .exact count forms others)
    (range : KeepsFirst .range count forms others)
    (decided : ∃ form ∈ forms, (parse form).tag = none ∨ (parse form).admits count = true)
    : ∃ text, select count forms = some text ∧ select count others = some text := by
  have present : forms ≠ [] := by
    obtain ⟨form, member, -⟩ := decided
    exact List.ne_nil_of_mem member
  obtain ⟨text, chosen⟩ := exists_select count present
  have same : select count forms = select count others := by
    apply select_congr
    · exact tagged_eq_of_perm true perm exact
    · exact tagged_eq_of_perm false perm range
    · rw [untagged_eq_map, untagged_eq_map, plain]
    · exact decided
  exact ⟨text, chosen, same ▸ chosen⟩

/-- The two forms with the same number keep their order, and the ranges do not. -/
theorem select_rearranged_ranges
    : let forms := ["{2} two", "[9-*] many", "none", "{2} deux", "[1-8] few"]
      let others := ["[1-8] few", "{2} two", "none", "[9-*] many", "{2} deux"]
      forms ≠ others ∧ ∃ text, select 2 forms = some text ∧ select 2 others = some text := by
  intro forms others
  refine ⟨by decide, select_rearranged (by decide) (by decide) ?_ ?_ ?_⟩
  · exact .inl (by decide)
  · exact .inr (by decide)
  · exact ⟨"none", by decide, .inl (by decide)⟩

-- Forms with tags that do not admit the count are chosen by position, if there are no others.
example
    : select 5 ["{1} a", "{2} b"] = some "{2} b" ∧ select 5 ["{2} b", "{1} a"] = some "{1} a" := by
  decide

end Phrasebook.PluralForm
