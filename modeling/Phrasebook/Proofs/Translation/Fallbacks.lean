import Phrasebook.Proofs.ComposedKey.ShortestBase
import Phrasebook.Proofs.PluralForm.Selection
import Phrasebook.Translation

/-! Fallbacks that no call comes to. A composed key that was taken apart has a count or bindings,
bindings fill any key, and each template has a form for every count. So a key is left as it is only
where it has no template, or cannot be taken apart.
-/

namespace Phrasebook

-----------------------------------------------------------------------------------------
-- Keys without clauses
-----------------------------------------------------------------------------------------

namespace ComposedKey

theorem Clauses.Written.eq_nil_iff {clauses : Clauses} {suffix : List Char}
    (written : clauses.Written suffix)
    : suffix = [] ↔ clauses.count = none ∧ clauses.body = none := by
  cases written <;> simp [countText, bodyText]

/-- Of all keys, those without clauses are their own base. -/
theorem FoundByTrial.base_eq_iff {key : String} {parsed : ComposedKey}
    (found : FoundByTrial key parsed)
    : parsed.base = key ↔ parsed.count = none ∧ parsed.bindings = none := by
  cases found with
  | empty empty => simp [empty]
  | @base base suffix clauses first =>
      have whole : String.ofList base = key ↔ suffix = [] := by
        rw [← String.toList_inj, String.toList_ofList, first.text]
        simp
      rw [whole, first.written.eq_nil_iff, Option.map_eq_none_iff]

/-- A composed key whose base opens no clause has clauses: without any it would be its own base. -/
theorem exists_clause {key : String} (composed : isComposed key = true)
    (plain : isComposed (parse key).base = false)
    : (parse key).count ≠ none ∨ (parse key).bindings ≠ none := by
  refine Classical.not_and_iff_not_or_not.mp fun bare => ?_
  have whole : (parse key).base = key := (foundByTrial_parse key).base_eq_iff.mpr bare
  rw [whole, composed] at plain
  contradiction

end ComposedKey

namespace PluralForm

/-- Only from no forms at all is none selected. -/
theorem select_eq_none_iff {count : Int64} {forms : List String}
    : select count forms = none ↔ forms = [] := by
  cases forms with
  | nil => exact iff_of_true rfl rfl
  | cons form forms =>
      obtain ⟨text, selected⟩ := exists_select count (List.cons_ne_nil form forms)
      simp [selected]

end PluralForm

namespace Dictionary

-----------------------------------------------------------------------------------------
-- Ways to a text
-----------------------------------------------------------------------------------------

/-- The texts of a composed key that is taken apart: by its count, or by what its bindings fill. -/
inductive UnwrappedText (d : Dictionary) (parts : ComposedKey) : String → Prop
  | counted {n} (count : parts.count = some n)
    : UnwrappedText d parts (d.resolvePlural parts.base n parts.bindings)
  | filled {b text} (uncounted : parts.count = none) (bound : parts.bindings = some b)
    (resolved : d.resolveDirect parts.base (some b) = some text)
    : UnwrappedText d parts text

/-- The texts of a key for a count: the key if it has no template, and else the form that is
selected, filled.
-/
inductive PluralText (d : Dictionary) (key : String) (count : Int64) (bindings : Option Bindings)
    : String → Prop
  | unknown (missing : d.lookup key = none) : PluralText d key count bindings key
  | selected {template form} (found : d.lookup key = some template)
    (selected : PluralForm.select count (PluralForm.formsOf template) = some form)
    : PluralText d key count bindings (interpolate form (some (countBindings count bindings)))

variable {d : Dictionary} {parts : ComposedKey} {key text other : String} {count : Int64}
  {bindings : Option Bindings}

theorem UnwrappedText.unique (h : d.UnwrappedText parts text) (h' : d.UnwrappedText parts other)
    : text = other := by
  cases h with
  | @counted n count =>
      cases h' with
      | counted count' => rw [Option.some.inj (count.symm.trans count')]
      | filled uncounted => exact nomatch count.symm.trans uncounted
  | @filled b _ uncounted bound resolved =>
      cases h' with
      | counted count => exact nomatch count.symm.trans uncounted
      | filled _ bound' resolved' =>
          obtain rfl := Option.some.inj (bound.symm.trans bound')
          exact Option.some.inj (resolved.symm.trans resolved')

/-- The text of a composed key that can be taken apart comes from its clauses, of which there is at
least one.
-/
theorem unwrappedText_resolveComposed (d : Dictionary)
    (composed : ComposedKey.isComposed key = true)
    (plain : ComposedKey.isComposed (ComposedKey.parse key).base = false)
    : d.UnwrappedText (ComposedKey.parse key) (d.resolveComposed key) := by
  have clause := ComposedKey.exists_clause composed plain
  simp only [resolveComposed, composed, plain]
  cases counted : (ComposedKey.parse key).count with
  | some n => exact .counted counted
  | none =>
      obtain ⟨b, bound⟩ := Option.ne_none_iff_exists'.mp (clause.resolve_left (absurd counted))
      have resolved := d.resolveDirect_bindings (ComposedKey.parse key).base b
      simp only [bound, resolved]
      exact .filled counted bound resolved

theorem PluralText.unique (h : d.PluralText key count bindings text)
    (h' : d.PluralText key count bindings other)
    : text = other := by
  cases h with
  | unknown missing =>
      cases h' with
      | unknown => rfl
      | selected found => exact nomatch missing.symm.trans found
  | @selected template form found selected =>
      cases h' with
      | unknown missing => exact nomatch missing.symm.trans found
      | selected found' selected' =>
          obtain rfl := Option.some.inj (found.symm.trans found')
          rw [Option.some.inj (selected.symm.trans selected')]

/-- The text of a key for a count comes from its template, if it has one: some form is selected. -/
theorem pluralText_resolvePlural (d : Dictionary) (key : String) (count : Int64)
    (bindings : Option Bindings)
    : d.PluralText key count bindings (d.resolvePlural key count bindings) := by
  unfold resolvePlural
  cases found : d.lookup key with
  | none => exact .unknown found
  | some template =>
      obtain ⟨form, selected⟩ := PluralForm.exists_select count (PluralForm.formsOf_ne_nil template)
      simp only [selected]
      exact .selected found selected

-----------------------------------------------------------------------------------------
-- No fallbacks
-----------------------------------------------------------------------------------------

/-- A key has neither a count nor bindings exactly if it is its own base, so a composed key whose
base opens no clause has one of them. It is translated by its count, or else by its bindings, which
fill every key. Only from no forms at all is none selected, and a template has at least one. So a key
is left as it is in a call with a count only if it has no template; any other key has the text of the
form that is selected, filled.
-/
theorem fallbacks_unreachable (d : Dictionary)
    : (∀ key,
        (ComposedKey.parse key).base = key ↔
          (ComposedKey.parse key).count = none ∧ (ComposedKey.parse key).bindings = none)
      ∧ (∀ key,
          ComposedKey.isComposed key = true →
            ComposedKey.isComposed (ComposedKey.parse key).base = false →
              ((ComposedKey.parse key).count ≠ none ∨ (ComposedKey.parse key).bindings ≠ none)
              ∧ ∀ text,
                  d.resolveComposed key = text ↔ d.UnwrappedText (ComposedKey.parse key) text)
      ∧ (∀ key b, d.resolveDirect key (some b) ≠ none)
      ∧ (∀ count forms, PluralForm.select count forms = none ↔ forms = [])
      ∧ (∀ template, PluralForm.formsOf template ≠ [])
      ∧ ∀ key count argument text,
          d.translatePlural key count argument = text ↔
            d.PluralText key count argument.normalize text := by
  refine ⟨fun key => (ComposedKey.foundByTrial_parse key).base_eq_iff, ?_, ?_,
    fun _ _ => PluralForm.select_eq_none_iff, PluralForm.formsOf_ne_nil, ?_⟩
  · intro key composed plain
    have unwrapped := d.unwrappedText_resolveComposed composed plain
    refine ⟨ComposedKey.exists_clause composed plain, fun text => ?_⟩
    constructor
    · rintro rfl
      exact unwrapped
    · exact unwrapped.unique
  · intro key b
    rw [resolveDirect_bindings]
    exact Option.some_ne_none _
  · intro key count argument text
    have result := d.pluralText_resolvePlural key count argument.normalize
    constructor
    · rintro rfl
      exact result
    · exact result.unique

/-- A key with a count and bindings, one of which spells a clause, and a template with one form left
for that count.
-/
theorem unwrapped_by_count
    : let d : Dictionary :=
        ⟨[("cart", .nested [("items", .text "\x7b0\x7d none|:count of :total")])]⟩
      let key := "cart.items[2]\x7btotal:[5]\x7d"
      ComposedKey.isComposed key = true
        ∧ ComposedKey.isComposed (ComposedKey.parse key).base = false
        ∧ (ComposedKey.parse key).base ≠ key
        ∧ d.UnwrappedText (ComposedKey.parse key) "2 of [5]"
        ∧ d.PluralText "cart.items" 0 none "none" := by
  intro d key
  have composed : ComposedKey.isComposed key = true := by decide
  have plain : ComposedKey.isComposed (ComposedKey.parse key).base = false := by decide
  obtain ⟨bare, unwrapped, -, -, -, plural⟩ := d.fallbacks_unreachable
  obtain ⟨clause, texts⟩ := unwrapped key composed plain
  refine ⟨composed, plain, ?_, (texts _).mp (by decide), ?_⟩
  · intro whole
    obtain ⟨uncounted, unbound⟩ := (bare key).mp whole
    rcases clause with counted | bound
    · exact counted uncounted
    · exact bound unbound
  · exact (plural "cart.items" 0 .none _).mp (by decide)

end Dictionary

end Phrasebook
