import Mathlib.Data.List.Perm.Subperm
import Phrasebook.Ordered

/-! Named values compared without regard to their order. Two lists of the same length match as soon
as each pair of the one finds its partner in the other, since their names are pairwise different.
-/

namespace Option.Rel

variable {α : Type} {R S T : α → α → Prop} {o p q : Option α}

theorem eq_none_iff (h : Option.Rel R o p) : o = .none ↔ p = .none := by
  cases h <;> simp

theorem exists_of_eq_some (h : Option.Rel R o p) {a : α} (eq : o = .some a)
    : ∃ b, p = .some b ∧ R a b := by
  cases h with
  | none => contradiction
  | some related => exact ⟨_, rfl, Option.some.inj eq ▸ related⟩

theorem of_self (each : ∀ a, o = .some a → R a a) : Option.Rel R o o := by
  cases o with
  | none => exact .none
  | some a => exact .some (each a rfl)

theorem turn (h : Option.Rel R o p) (each : ∀ a b, o = .some a → p = .some b → R a b → S b a)
    : Option.Rel S p o := by
  cases h with
  | none => exact .none
  | some related => exact .some (each _ _ rfl rfl related)

theorem chain (first : Option.Rel R o p) (second : Option.Rel S p q)
    (each : ∀ a b c, o = .some a → p = .some b → q = .some c → R a b → S b c → T a c)
    : Option.Rel T o q := by
  cases first with
  | none => cases second with | none => exact .none
  | some here => cases second with | some there => exact .some (each _ _ _ rfl rfl rfl here there)

end Option.Rel

namespace Phrasebook.Ordered

variable {α : Type} {R S T : α → α → Prop} {pairs others more : List (String × α)}

/-- Requires every name to have related values in both lists, or a value in neither. -/
def Matches (R : α → α → Prop) (pairs others : List (String × α)) : Prop :=
  ∀ name, Option.Rel R (pairs.lookup name) (others.lookup name)

theorem lookup_eq_none_iff {name : String}
    : pairs.lookup name = none ↔ name ∉ pairs.map Prod.fst := by
  rw [List.lookup_eq_none_iff, List.mem_map]
  constructor
  · intro differ listed
    obtain ⟨pair, member, same⟩ := listed
    simpa [same] using differ pair member
  · intro absent pair member
    simpa using fun same => absent ⟨pair, member, Eq.symm same⟩

theorem mem_names_of_lookup {name : String} {value : α} (found : pairs.lookup name = some value)
    : name ∈ pairs.map Prod.fst :=
  List.mem_map_of_mem (mem_of_lookup found)

/-- A permutation does not change what a name is bound to. -/
theorem lookup_perm (distinct : Distinct pairs) (perm : pairs.Perm others) (name : String)
    : others.lookup name = pairs.lookup name := by
  have distinct' : Distinct others := (perm.map Prod.fst).nodup_iff.mp distinct
  refine Option.ext fun value => ?_
  constructor
  · intro found
    exact lookup_of_mem distinct (perm.mem_iff.mpr (mem_of_lookup found))
  · intro found
    exact lookup_of_mem distinct' (perm.mem_iff.mp (mem_of_lookup found))

/-- If each pair has its partner among as many others, no other name is left over: the names of the
one list are among those of the other, and there are as many.
-/
theorem matches_of_partners (distinct : Distinct pairs) (size : pairs.length = others.length)
    (partners : ∀ pair ∈ pairs, ∃ other, others.lookup pair.1 = some other ∧ R pair.2 other)
    : Matches R pairs others := by
  have within : pairs.map Prod.fst ⊆ others.map Prod.fst := by
    intro name member
    obtain ⟨pair, listed, rfl⟩ := List.mem_map.mp member
    obtain ⟨other, found, -⟩ := partners pair listed
    exact mem_names_of_lookup found
  have same : (pairs.map Prod.fst).Perm (others.map Prod.fst) :=
    (List.subperm_of_subset distinct within).perm_of_length_le (by simp [size])
  intro name
  cases here : pairs.lookup name with
  | none =>
      have absent : others.lookup name = none := by
        rw [lookup_eq_none_iff, ← same.mem_iff]
        exact lookup_eq_none_iff.mp here
      rw [absent]
      exact .none
  | some value =>
      obtain ⟨other, found, related⟩ := partners (name, value) (mem_of_lookup here)
      rw [found]
      exact .some related

theorem Matches.length_eq (h : Matches R pairs others) (distinct : Distinct pairs)
    (distinct' : Distinct others)
    : pairs.length = others.length := by
  have names (name : String) : name ∈ pairs.map Prod.fst ↔ name ∈ others.map Prod.fst := by
    rw [← not_iff_not, ← lookup_eq_none_iff, ← lookup_eq_none_iff]
    exact (h name).eq_none_iff
  have same : (pairs.map Prod.fst).Perm (others.map Prod.fst) :=
    (List.perm_ext_iff_of_nodup distinct distinct').mpr names
  simpa using same.length_eq

theorem matches_iff (distinct : Distinct pairs) (distinct' : Distinct others)
    : Matches R pairs others ↔
      pairs.length = others.length
        ∧ ∀ pair ∈ pairs, ∃ other, others.lookup pair.1 = some other ∧ R pair.2 other := by
  constructor
  · intro h
    refine ⟨h.length_eq distinct distinct', ?_⟩
    intro pair member
    exact (h pair.1).exists_of_eq_some (lookup_of_mem distinct member)
  · intro partners
    exact matches_of_partners distinct partners.1 partners.2

theorem matches_self (each : ∀ pair ∈ pairs, R pair.2 pair.2) : Matches R pairs pairs := by
  intro name
  exact .of_self fun value found => each _ (mem_of_lookup found)

theorem Matches.turn (h : Matches R pairs others)
    (each : ∀ pair ∈ pairs, ∀ other ∈ others, R pair.2 other.2 → S other.2 pair.2)
    : Matches S others pairs := by
  intro name
  exact (h name).turn fun _ _ here there => each _ (mem_of_lookup here) _ (mem_of_lookup there)

theorem Matches.chain (first : Matches R pairs others) (second : Matches S others more)
    (each : ∀ pair ∈ pairs, ∀ other ∈ others, ∀ last ∈ more,
      R pair.2 other.2 → S other.2 last.2 → T pair.2 last.2)
    : Matches T pairs more := by
  intro name
  exact (first name).chain (second name) fun _ _ _ here there beyond =>
    each _ (mem_of_lookup here) _ (mem_of_lookup there) _ (mem_of_lookup beyond)

/-- Reordered pairs match the pairs in their first order. -/
theorem matches_perm (distinct : Distinct pairs) (perm : pairs.Perm others)
    (self : ∀ pair ∈ pairs, R pair.2 pair.2)
    : Matches R pairs others := by
  intro name
  rw [lookup_perm distinct perm]
  exact matches_self self name

/-- So do pairs in which one value gives way to a related one. -/
theorem matches_insert {name : String} {value other : α}
    (found : pairs.lookup name = some value) (related : R value other)
    (self : ∀ pair ∈ pairs, R pair.2 pair.2)
    : Matches R pairs (insert name other pairs) := by
  intro key
  by_cases eq : key = name
  · subst eq
    rw [found, lookup_insert_self]
    exact .some related
  · rw [lookup_insert_of_ne eq]
    exact matches_self self key

end Phrasebook.Ordered
