import Phrasebook.Proofs.ComposedKey.Clauses
import Phrasebook.Translation

/-! The text of a key without an argument. A key with a template has its template; any other key is
unwrapped once, at the first character that could open a clause, if everything from there on is
written clauses, and else it stays as it is.
-/

namespace Phrasebook

namespace ComposedKey

/-- The key is the base followed by written clauses, of which there is at least one. The base is not
empty and opens no clause, so it ends before the first opening character of the key.
-/
structure Composes (key base : String) (clauses : Clauses) (suffix : List Char) : Prop where
  text : key.toList = base.toList ++ suffix
  nonempty : base ≠ ""
  plain : isComposed base = false
  present : suffix ≠ []
  written : clauses.Written suffix

theorem isComposed_eq_false_iff {key : String}
    : isComposed key = false ↔ ∀ c ∈ key.toList, opensClause c = false := by
  simp [isComposed]

/-- A composed key has a first opening character. The characters before it open no clause. -/
theorem exists_first_opening {key : String} (composed : isComposed key = true)
    : ∃ base c rest,
        key.toList = base ++ c :: rest
        ∧ (∀ d ∈ base, opensClause d = false)
        ∧ opensClause c = true := by
  have present := List.find?_isSome.mpr (List.any_eq_true.mp composed)
  obtain ⟨c, found⟩ := Option.isSome_iff_exists.mp present
  obtain ⟨opens, base, rest, text, plain⟩ := List.find?_eq_some_iff_append.mp found
  exact ⟨base, c, rest, text, fun d member => by simpa using plain d member, opens⟩

theorem Composes.isComposed {key base : String} {clauses : Clauses} {suffix : List Char}
    (h : Composes key base clauses suffix)
    : isComposed key = true := by
  obtain ⟨c, rest, rfl⟩ := List.exists_cons_of_ne_nil h.present
  refine List.any_eq_true.mpr ⟨c, ?_, h.written.opensClause⟩
  simp [h.text]

/-- A base and the clauses written behind it are what the key is taken apart into. -/
theorem Composes.parse_eq {key base : String} {clauses : Clauses} {suffix : List Char}
    (h : Composes key base clauses suffix)
    : parse key = ⟨base, clauses.count, clauses.body.map pairs⟩ := by
  have nonempty : base.toList ≠ [] := by simpa using h.nonempty
  rw [parse_of_written h.text nonempty (isComposed_eq_false_iff.mp h.plain) h.written, ofParts,
    String.ofList_toList]

/-- A composed key keeps an opening character in its base, unless clauses are written from the first
opening character to the end. That character is passed over when no clauses start there, and also at
the very start of the key, where the base would be empty.
-/
theorem isComposed_parse_base {key : String} (composed : isComposed key = true)
    (other : ∀ base clauses suffix, ¬ Composes key base clauses suffix)
    : isComposed (parse key).base = true := by
  obtain ⟨base, c, rest, text, plain, opens⟩ := exists_first_opening composed
  suffices kept : ∃ more, (parse key).base = String.ofList (base ++ c :: more) by
    obtain ⟨more, eq⟩ := kept
    exact List.any_eq_true.mpr ⟨c, by simp [eq], opens⟩
  by_cases empty : base = []
  · subst empty
    exact ⟨(split rest).1, by simp [parse, text, ofParts]⟩
  · refine ⟨(split rest).1, ?_⟩
    have unwritten : ∀ clauses : Clauses, ¬ clauses.Written (c :: rest) := by
      intro clauses written
      refine other (String.ofList base) clauses (c :: rest) ⟨?_, ?_, ?_, by simp, written⟩
      · rw [String.toList_ofList, text]
      · simpa [← String.toList_inj] using empty
      · exact isComposed_eq_false_iff.mpr (by simpa using plain)
    rw [parse_append text empty plain, split_cons_of_not_written unwritten, ofParts]

end ComposedKey

namespace Dictionary

open ComposedKey

/-- The text of a key when nothing is given to fill placeholders: the template at the key, what the
base and the clauses of the key stand for, or the key itself.
-/
inductive TextOf (d : Dictionary) (key : String) : String → Prop
  | template {template} (found : d.lookup key = some template) : TextOf d key template
  | counted {base n suffix} (missing : d.lookup key = none)
    (composes : Composes key base ⟨some n, none⟩ suffix)
    : TextOf d key (d.translatePlural base n .none)
  | countedFilled {base n body suffix} (missing : d.lookup key = none)
    (composes : Composes key base ⟨some n, some body⟩ suffix)
    : TextOf d key (d.translatePlural base n (.bindings (pairs body)))
  | filled {base body suffix} (missing : d.lookup key = none)
    (composes : Composes key base ⟨none, some body⟩ suffix)
    : TextOf d key (d.translate base (.bindings (pairs body)))
  | unchanged (missing : d.lookup key = none)
    (other : ∀ base clauses suffix, ¬ Composes key base clauses suffix)
    : TextOf d key key

theorem translate_none_of_missing {d : Dictionary} {key : String} (missing : d.lookup key = none)
    : d.translate key .none = d.resolveComposed key := by
  simp [translate, resolveDirect, missing, Argument.normalize]

/-- A composed key is unwrapped into its base and its clauses. -/
theorem resolveComposed_of_composes (d : Dictionary) {key base : String} {clauses : Clauses}
    {suffix : List Char} (h : Composes key base clauses suffix)
    : d.resolveComposed key =
      match clauses.count, clauses.body.map pairs with
      | some count, bindings => d.resolvePlural base count bindings
      | none, some bindings => (d.resolveDirect base (some bindings)).getD base
      | none, none => base := by
  simp only [resolveComposed, h.isComposed, h.parse_eq, h.plain]
  rfl

/-- A key that composes nothing is left as it is: either it has no opening character, or its base
still has one.
-/
theorem resolveComposed_of_not_composes (d : Dictionary) {key : String}
    (other : ∀ base clauses suffix, ¬ Composes key base clauses suffix)
    : d.resolveComposed key = key := by
  unfold resolveComposed
  split
  · next composed => rw [if_pos (isComposed_parse_base composed other)]
  · rfl

/-- Every key has a text, by the template at it and by what it composes. -/
theorem exists_textOf (d : Dictionary) (key : String) : ∃ text, d.TextOf key text := by
  cases found : d.lookup key with
  | some template => exact ⟨_, .template found⟩
  | none =>
      by_cases composed : ∃ base clauses suffix, Composes key base clauses suffix
      · obtain ⟨base, ⟨count, body⟩, suffix, composes⟩ := composed
        cases count with
        | some n =>
            cases body with
            | some body => exact ⟨_, .countedFilled found composes⟩
            | none => exact ⟨_, .counted found composes⟩
        | none =>
            cases body with
            | some body => exact ⟨_, .filled found composes⟩
            | none =>
                cases composes.written
                exact absurd rfl composes.present
      · refine ⟨key, .unchanged found ?_⟩
        intro base clauses suffix composes
        exact composed ⟨base, clauses, suffix, composes⟩

/-- The text of a key is what it is translated to. -/
theorem TextOf.translate_eq {d : Dictionary} {key text : String} (h : d.TextOf key text)
    : d.translate key .none = text := by
  cases h with
  | template found => simp [translate, resolveDirect, found, interpolate, Argument.normalize]
  | counted missing composes =>
      rw [translate_none_of_missing missing, d.resolveComposed_of_composes composes]
      rfl
  | countedFilled missing composes =>
      rw [translate_none_of_missing missing, d.resolveComposed_of_composes composes]
      rfl
  | filled missing composes =>
      rw [translate_none_of_missing missing, d.resolveComposed_of_composes composes, translate,
        Argument.normalize]
      simp [resolveDirect_bindings]
  | unchanged missing other =>
      rw [translate_none_of_missing missing, d.resolveComposed_of_not_composes other]

/-- Without an argument every key is translated to its text and to nothing else. Only the first
opening character of a key decides how it is unwrapped, and no base is unwrapped again.
-/
theorem translate_none_eq_iff (d : Dictionary) (key text : String)
    : d.translate key .none = text ↔ d.TextOf key text := by
  constructor
  · intro result
    subst result
    obtain ⟨text, stands⟩ := d.exists_textOf key
    rw [stands.translate_eq]
    exact stands
  · exact TextOf.translate_eq

end Dictionary

end Phrasebook
