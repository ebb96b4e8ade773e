import Mathlib.Data.List.Basic
import Phrasebook.Proofs.Text.EditDistance
import Phrasebook.Suggestion

/-! Which keys are suggested: the available keys at no distance, then those at a distance of one, then
those at a distance of two, each in the order of the list, and of all these the first three.
-/

namespace Phrasebook

open Phrasebook.Text

-----------------------------------------------------------------------------------------
-- Items sorted by their ranks
-----------------------------------------------------------------------------------------

section Rank

variable {α : Type} {rank : α → Nat} {items : List α} {bound : Nat}

theorem rank_trans (a b c : α) (first : decide (rank a ≤ rank b) = true)
    (second : decide (rank b ≤ rank c) = true)
    : decide (rank a ≤ rank c) = true := by
  rw [decide_eq_true_eq] at first second ⊢
  exact Nat.le_trans first second

theorem rank_total (a b : α) : (decide (rank a ≤ rank b) || decide (rank b ≤ rank a)) = true := by
  rw [Bool.or_eq_true, decide_eq_true_eq, decide_eq_true_eq]
  exact Nat.le_total (rank a) (rank b)

theorem pairwise_mergeSort_rank (rank : α → Nat) (items : List α)
    : (items.mergeSort fun a b => rank a ≤ rank b).Pairwise fun a b => rank a ≤ rank b :=
  (List.pairwise_mergeSort rank_trans rank_total items).imp of_decide_eq_true

/-- Sorting keeps the items of one rank in their order: they are in order already, so that sorting
keeps them as a part of the list, and it adds no others.
-/
theorem filter_mergeSort_rank (rank : α → Nat) (items : List α) (n : Nat)
    : (items.mergeSort fun a b => rank a ≤ rank b).filter (rank · = n) =
      items.filter (rank · = n) := by
  have level : (items.filter (rank · = n)).Pairwise fun a b => decide (rank a ≤ rank b) = true := by
    refine List.pairwise_of_forall_mem_list fun a first b second => ?_
    rw [List.mem_filter, decide_eq_true_eq] at first second
    rw [first.2, second.2]
    exact decide_eq_true (Nat.le_refl n)
  have kept := (List.sublist_mergeSort rank_trans rank_total level List.filter_sublist).filter
    (rank · = n)
  rw [List.filter_filter] at kept
  simp only [Bool.and_self] at kept
  have sorted := List.mergeSort_perm items fun a b => rank a ≤ rank b
  have same := (sorted.filter (rank · = n)).length_eq
  exact (kept.eq_of_length same.symm).symm

/-- Sorted items are those below a rank and behind them those of this rank, if there are no others, by
induction on the items.
-/
theorem filter_append_filter_of_sorted (sorted : items.Pairwise fun a b => rank a ≤ rank b)
    (bounded : ∀ item ∈ items, rank item ≤ bound)
    : items.filter (rank · < bound) ++ items.filter (rank · = bound) = items := by
  induction items with
  | nil => rfl
  | cons first rest ih =>
      obtain ⟨least, behind⟩ := List.pairwise_cons.mp sorted
      obtain ⟨here, later⟩ := List.forall_mem_cons.mp bounded
      rcases Nat.lt_or_eq_of_le here with below | last
      · rw [List.filter_cons_of_pos (by simpa using below),
          List.filter_cons_of_neg (by simpa using Nat.ne_of_lt below), List.cons_append,
          ih behind later]
      · have level : ∀ item ∈ first :: rest, rank item = bound := by
          refine List.forall_mem_cons.mpr ⟨last, fun item member => ?_⟩
          exact Nat.le_antisymm (later item member) (last ▸ least item member)
        have all : (first :: rest).filter (rank · = bound) = first :: rest :=
          List.filter_eq_self.mpr (by simpa using level)
        have none : (first :: rest).filter (rank · < bound) = [] :=
          List.filter_eq_nil_iff.mpr fun item member => by simp [level item member]
        rw [all, none, List.nil_append]

/-- Sorted items are those of rank zero, then those of rank one, and so on, by induction on the bound
of the ranks.
-/
theorem flatMap_filter_of_sorted (sorted : items.Pairwise fun a b => rank a ≤ rank b)
    (bounded : ∀ item ∈ items, rank item < bound)
    : (List.range bound).flatMap (fun n => items.filter (rank · = n)) = items := by
  induction bound generalizing items with
  | zero => exact (List.eq_nil_iff_forall_not_mem.mpr fun item member =>
      absurd (bounded item member) (Nat.not_lt_zero _)).symm
  | succ bound ih =>
      have lower : ∀ n ∈ List.range bound,
          (items.filter (rank · < bound)).filter (rank · = n) = items.filter (rank · = n) := by
        intro n member
        rw [List.filter_filter]
        refine List.filter_congr fun item _ => ?_
        have := List.mem_range.mp member
        grind
      have below : (List.range bound).flatMap
            (fun n => (items.filter (rank · < bound)).filter (rank · = n)) =
          items.filter (rank · < bound) := ih (sorted.filter _) (by simp)
      rw [List.flatMap_congr lower] at below
      rw [List.range_succ, List.flatMap_append, List.flatMap_singleton, below]
      exact filter_append_filter_of_sorted sorted fun item member =>
        Nat.lt_succ_iff.mp (bounded item member)

/-- Sorting by rank puts the items of one rank behind those of lower ranks, each in their order. -/
theorem mergeSort_rank_eq_flatMap (bounded : ∀ item ∈ items, rank item < bound)
    : items.mergeSort (fun a b => rank a ≤ rank b) =
      (List.range bound).flatMap fun n => items.filter (rank · = n) := by
  have sorted := pairwise_mergeSort_rank rank items
  have levels := flatMap_filter_of_sorted sorted fun item member =>
    bounded item (List.mem_mergeSort.mp member)
  simp only [filter_mergeSort_rank] at levels
  exact levels.symm

end Rank

-----------------------------------------------------------------------------------------
-- Suggestions for a key
-----------------------------------------------------------------------------------------

/-- The available keys that are near the key, in the order of the list. -/
def nearKeys (key : String) (available : List String) : List String :=
  available.filter (editDistance key · ≤ maxEdits)

/-- The available keys at a distance from the key, in the order of the list. -/
def keysAtDistance (key : String) (available : List String) (distance : Nat) : List String :=
  available.filter (editDistance key · = distance)

/-- The near keys by their distances. -/
def rankedKeys (key : String) (available : List String) : List String :=
  (nearKeys key available).mergeSort fun a b => editDistance key a ≤ editDistance key b

variable {key candidate : String} {available : List String}

/-- The first of the ranked keys are suggested: that they are sorted together with their distances
makes no difference.
-/
theorem suggestions_eq_take (key : String) (available : List String)
    : suggestions key available = (rankedKeys key available).take maxSuggestions := by
  have ranked : ((nearKeys key available).map fun candidate =>
        (editDistance key candidate, candidate)).mergeSort (fun a b => a.1 ≤ b.1) =
      (rankedKeys key available).map fun candidate => (editDistance key candidate, candidate) :=
    (List.map_mergeSort (f := fun candidate => (editDistance key candidate, candidate))
      fun _ _ _ _ => rfl).symm
  calc
    suggestions key available =
        ((((nearKeys key available).map fun candidate =>
          (editDistance key candidate, candidate)).mergeSort fun a b => a.1 ≤ b.1).take
            maxSuggestions).map Prod.snd := by
      rw [suggestions, List.filter_map]
      rfl
    _ = ((rankedKeys key available).take maxSuggestions).map id := by
      rw [ranked, ← List.map_take, List.map_map]
      rfl
    _ = (rankedKeys key available).take maxSuggestions := List.map_id _

theorem mem_nearKeys_iff
    : candidate ∈ nearKeys key available ↔
      candidate ∈ available ∧ editDistance key candidate ≤ maxEdits := by
  rw [nearKeys, List.mem_filter, decide_eq_true_eq]

theorem mem_rankedKeys_iff
    : candidate ∈ rankedKeys key available ↔
      candidate ∈ available ∧ editDistance key candidate ≤ maxEdits :=
  List.mem_mergeSort.trans mem_nearKeys_iff

/-- Keys at a small distance are near. -/
theorem filter_nearKeys (key : String) (available : List String) {distance : Nat}
    (small : distance ≤ maxEdits)
    : (nearKeys key available).filter (editDistance key · = distance) =
      keysAtDistance key available distance := by
  rw [nearKeys, List.filter_filter]
  refine List.filter_congr fun candidate _ => ?_
  by_cases same : editDistance key candidate = distance
  · simp [same, small]
  · simp [same]

theorem rankedKeys_eq (key : String) (available : List String)
    : rankedKeys key available =
      keysAtDistance key available 0 ++ keysAtDistance key available 1
        ++ keysAtDistance key available 2 := by
  have bounded : ∀ candidate ∈ nearKeys key available, editDistance key candidate < 3 :=
    fun candidate member => Nat.lt_succ_iff.mpr (mem_nearKeys_iff.mp member).2
  have level (distance : Nat) (small : distance ≤ maxEdits) :=
    filter_nearKeys key available small
  rw [rankedKeys, mergeSort_rank_eq_flatMap bounded]
  simp only [List.range_succ, List.range_zero, List.nil_append, List.flatMap_append,
    List.flatMap_singleton, level 0 (by decide), level 1 (by decide), level 2 (by decide)]

/-- What is left of the available keys when the suggested ones are taken out: the ranked keys behind
them, and those that are not near.
-/
def otherKeys (key : String) (available : List String) : List String :=
  (rankedKeys key available).drop maxSuggestions
    ++ available.filter (maxEdits < editDistance key ·)

theorem suggestions_append_otherKeys_perm (key : String) (available : List String)
    : (suggestions key available ++ otherKeys key available).Perm available := by
  rw [suggestions_eq_take, otherKeys, ← List.append_assoc, List.take_append_drop]
  have all := List.filter_append_perm (editDistance key · ≤ maxEdits) available
  simp only [← decide_not, Nat.not_le] at all
  exact ((List.mergeSort_perm _ _).append_right _).trans all

theorem editDistance_le_of_mem_otherKeys {other : String}
    (suggested : candidate ∈ suggestions key available) (left : other ∈ otherKeys key available)
    : editDistance key candidate ≤ editDistance key other := by
  rw [suggestions_eq_take] at suggested
  have sorted := pairwise_mergeSort_rank (editDistance key) (nearKeys key available)
  rcases List.mem_append.mp left with behind | far
  · rw [← rankedKeys, ← List.take_append_drop maxSuggestions (rankedKeys key available)] at sorted
    exact (List.pairwise_append.mp sorted).2.2 candidate suggested other behind
  · have close := (mem_rankedKeys_iff.mp (List.mem_of_mem_take suggested)).2
    have away := of_decide_eq_true (List.mem_filter.mp far).2
    exact Nat.le_trans close (Nat.le_of_lt away)

/-- The suggested keys are the first three of the available keys by their distances, with keys of one
distance in their order. So none of them is further away than two edits or than a key that is left
out, and lists with the same near keys in the same order have the same suggestions, wherever other
keys stand in them.
-/
theorem suggestions_exact (key : String) (available : List String)
    : suggestions key available =
        (available.filter (editDistance key · = 0) ++ available.filter (editDistance key · = 1)
          ++ available.filter (editDistance key · = 2)).take 3
      ∧ (∀ near ∈ suggestions key available, editDistance key near ≤ 2)
      ∧ (∃ omitted,
          (suggestions key available ++ omitted).Perm available
          ∧ ∀ near ∈ suggestions key available, ∀ other ∈ omitted,
              editDistance key near ≤ editDistance key other)
      ∧ (∀ others,
          others.filter (editDistance key · ≤ 2) = available.filter (editDistance key · ≤ 2) →
            suggestions key others = suggestions key available)
      ∧ ∀ candidate,
          IsLeast {n | Edits n key.toList candidate.toList} (editDistance key candidate) := by
  refine ⟨?_, ?_, ?_, ?_, isLeast_editDistance key⟩
  · rw [suggestions_eq_take, rankedKeys_eq]
    rfl
  · intro near suggested
    rw [suggestions_eq_take] at suggested
    exact (mem_rankedKeys_iff.mp (List.mem_of_mem_take suggested)).2
  · exact ⟨otherKeys key available, suggestions_append_otherKeys_perm key available,
      fun near suggested other left => editDistance_le_of_mem_otherKeys suggested left⟩
  · intro others same
    have near : nearKeys key others = nearKeys key available := same
    rw [suggestions_eq_take, suggestions_eq_take, rankedKeys, rankedKeys, near]

/-- Ties keep their order and a key that stands twice is suggested twice, wherever keys that are not
near stand.
-/
theorem suggestions_with_ties
    : let available := ["ac", "abcde", "abd", "abc", "ab", "abd", "xyz"]
      let others := ["xyz", "ac", "abcde", "abd", "", "abc", "ab", "abd"]
      suggestions "abc" available = ["abc", "ac", "abd"]
        ∧ others.filter (editDistance "abc" · ≤ 2) = available.filter (editDistance "abc" · ≤ 2)
        ∧ suggestions "abc" others = suggestions "abc" available := by
  intro available others
  obtain ⟨first, -, -, unchanged, -⟩ := suggestions_exact "abc" available
  have same
      : others.filter (editDistance "abc" · ≤ 2) = available.filter (editDistance "abc" · ≤ 2) := by
    decide
  exact ⟨first.trans (by decide), same, unchanged others same⟩

end Phrasebook
