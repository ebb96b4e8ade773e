import Phrasebook.Proofs.ComposedKey.Clauses
import Phrasebook.Proofs.Text.Parts

/-! Writing composed keys. A base, a count with leading zeros and pairs with white space around
their names and values are written one behind another, and taking the key apart gives them back.
-/

namespace Phrasebook.ComposedKey

open Phrasebook.Text

-----------------------------------------------------------------------------------------
-- The parts of a written key
-----------------------------------------------------------------------------------------

/-- Any amount of white space. -/
abbrev Blanks :=
  { run : List Char // ∀ c ∈ run, isBlank c }

/-- A name and its value with white space around both. The name is not empty and holds neither of
the separators; the value holds no comma, but may hold colons, brackets and braces.
-/
structure WrittenPair where
  name : String
  value : String
  beforeName : Blanks
  afterName : Blanks
  beforeValue : Blanks
  afterValue : Blanks
  named : name ≠ ""
  tightName : Tight name.toList
  tightValue : Tight value.toList
  commaFreeName : ',' ∉ name.toList
  colonFreeName : ':' ∉ name.toList
  commaFreeValue : ',' ∉ value.toList

/-- A count that is not negative, with any number of zeros in front. -/
structure WrittenCount where
  zeros : Nat
  n : Int64
  nonneg : 0 ≤ n.toInt

/-- Pairs with pairwise different names, of which there is at least one. -/
structure WrittenPairs where
  list : List WrittenPair
  nonempty : list ≠ []
  distinct : (list.map WrittenPair.name).Nodup

/-- A base that is not empty and opens no clause, and the clauses behind it. -/
structure WrittenKey where
  base : String
  count : Option WrittenCount
  pairs : Option WrittenPairs
  nonempty : base ≠ ""
  bracketFree : '[' ∉ base.toList
  braceFree : '\x7b' ∉ base.toList

/-- The name with its white space, a colon, and the value with its white space. -/
def WrittenPair.text (p : WrittenPair) : List Char :=
  (p.beforeName.val ++ p.name.toList ++ p.afterName.val)
    ++ ':' :: (p.beforeValue.val ++ p.value.toList ++ p.afterValue.val)

/-- The digits of the count behind its zeros. -/
def WrittenCount.digits (w : WrittenCount) : List Char :=
  List.replicate w.zeros '0' ++ writeInteger w.n.toInt

/-- The pairs with commas between them. -/
def WrittenPairs.body (w : WrittenPairs) : List Char :=
  [','].intercalate (w.list.map WrittenPair.text)

/-- The base, the count in square brackets if there is one, and the pairs in braces if there are
any.
-/
def WrittenKey.text (k : WrittenKey) : String :=
  String.ofList
    (k.base.toList
      ++ (k.count.elim [] fun w => countText w.digits)
      ++ (k.pairs.elim [] fun w => bodyText w.body))

/-- The name bound to the value as a text. -/
def WrittenPair.binding (p : WrittenPair) : String × Value :=
  (p.name, .text p.value)

/-- The pairs as bindings, in their order. -/
def WrittenPairs.bindings (w : WrittenPairs) : Bindings where
  entries := w.list.map WrittenPair.binding
  distinct := by
    have names : (w.list.map WrittenPair.binding).map Prod.fst = w.list.map WrittenPair.name := by
      rw [List.map_map]
      rfl
    rw [Ordered.Distinct, names]
    exact w.distinct

/-- The key that is written. -/
def WrittenKey.key (k : WrittenKey) : ComposedKey :=
  ⟨k.base, k.count.map WrittenCount.n, k.pairs.map WrittenPairs.bindings⟩

-----------------------------------------------------------------------------------------
-- Reading the parts back
-----------------------------------------------------------------------------------------

theorem Blanks.not_mem (blanks : Blanks) {c : Char} (solid : isBlank c = false)
    : c ∉ blanks.val := by
  intro member
  rw [blanks.property c member] at solid
  contradiction

theorem WrittenPair.pair?_text (p : WrittenPair) : pair? p.text = some p.binding := by
  have free : ':' ∉ p.beforeName.val ++ p.name.toList ++ p.afterName.val := by
    simp only [List.mem_append, not_or]
    exact ⟨⟨p.beforeName.not_mem (by decide), p.colonFreeName⟩, p.afterName.not_mem (by decide)⟩
  have name := trim_padded p.beforeName.property p.tightName p.afterName.property
  have value := trim_padded p.beforeValue.property p.tightValue p.afterValue.property
  have named : p.name.toList ≠ [] := by simpa using p.named
  simp only [pair?, text, cutOnce_append free, name, value, if_neg named, String.ofList_toList,
    binding]

theorem WrittenPair.comma_not_mem_text (p : WrittenPair) : ',' ∉ p.text := by
  have solid : isBlank ',' = false := by decide
  simp only [text, List.mem_append, List.mem_cons, not_or]
  exact ⟨⟨⟨p.beforeName.not_mem solid, p.commaFreeName⟩, p.afterName.not_mem solid⟩, by decide,
    ⟨p.beforeValue.not_mem solid, p.commaFreeValue⟩, p.afterValue.not_mem solid⟩

/-- The commas of a body of written pairs stand between the pairs only. -/
theorem WrittenPairs.splitOn_body (w : WrittenPairs)
    : w.body.splitOn ',' = w.list.map WrittenPair.text := by
  refine List.splitOn_intercalate ',' ?_ (by simpa using w.nonempty)
  intro text member
  obtain ⟨p, -, rfl⟩ := List.mem_map.mp member
  exact p.comma_not_mem_text

/-- Written pairs are read as the bindings they stand for, which keep their order since no name
comes twice.
-/
theorem WrittenPairs.pairs_body (w : WrittenPairs) : ComposedKey.pairs w.body = w.bindings := by
  have each : pair? ∘ WrittenPair.text = some ∘ WrittenPair.binding :=
    funext WrittenPair.pair?_text
  calc
    ComposedKey.pairs w.body = .ofList ((w.body.splitOn ',').filterMap pair?) := rfl
    _ = .ofList w.bindings.entries := by
      rw [w.splitOn_body, List.filterMap_map, each, List.filterMap_eq_map]
      rfl
    _ = w.bindings := w.bindings.ofList_entries

/-- The body of written pairs is not empty, since a pair has at least its colon. -/
theorem WrittenPairs.body_ne_nil (w : WrittenPairs) : w.body ≠ [] := by
  intro empty
  have parts := w.splitOn_body
  rw [empty, List.splitOn_nil] at parts
  cases list : w.list with
  | nil => exact w.nonempty list
  | cons p rest =>
      rw [list, List.map_cons] at parts
      simp [WrittenPair.text] at parts

/-- The clauses behind the base of a written key. -/
theorem WrittenKey.written (k : WrittenKey)
    : Clauses.Written ⟨k.count.map WrittenCount.n, k.pairs.map WrittenPairs.body⟩
        ((k.count.elim [] fun w => countText w.digits)
          ++ (k.pairs.elim [] fun w => bodyText w.body)) := by
  have numeral (w : WrittenCount) : Numeral w.digits w.n := numeral_padded w.zeros w.nonneg
  cases k.count with
  | none =>
      cases k.pairs with
      | none => exact .nothing
      | some w => exact .body w.body_ne_nil
  | some count =>
      cases k.pairs with
      | none =>
          simp only [Option.elim_some, Option.elim_none, List.append_nil]
          exact .count (numeral count)
      | some w => exact .both (numeral count) w.body_ne_nil

/-- Taking a written key apart gives back its base, its count and its pairs in order. An absent
clause comes back as absent.
-/
theorem parse_writtenKey (k : WrittenKey) : parse k.text = k.key := by
  have text : k.text.toList = k.base.toList
      ++ ((k.count.elim [] fun w => countText w.digits)
        ++ (k.pairs.elim [] fun w => bodyText w.body)) := by
    rw [WrittenKey.text, String.toList_ofList, List.append_assoc]
  have nonempty : k.base.toList ≠ [] := by simpa using k.nonempty
  have plain : ∀ c ∈ k.base.toList, opensClause c = false := by
    intro c member
    have bracket : c ≠ '[' := fun eq => k.bracketFree (eq ▸ member)
    have brace : c ≠ '\x7b' := fun eq => k.braceFree (eq ▸ member)
    simp [opensClause, bracket, brace]
  rw [parse_of_written text nonempty plain k.written, ofParts, String.ofList_toList, WrittenKey.key,
    Option.map_map]
  congr 2
  exact funext WrittenPairs.pairs_body

/-- The zeros in front of a count and the white space around names and values are left out. A value
may hold brackets, braces and colons, or be empty.
-/
theorem parse_padded_clauses
    : let nothing : Blanks := ⟨[], List.all_eq_true.mp rfl⟩
      let blank : Blanks := ⟨[' '], List.all_eq_true.mp rfl⟩
      let indent : Blanks := ⟨['\n', '\t'], List.all_eq_true.mp rfl⟩
      let who : WrittenPair :=
        { name := "who", value := "a[1]\x7bb:c\x7d",
          beforeName := indent, afterName := blank, beforeValue := nothing, afterValue := blank,
          named := by decide, tightName := by decide, tightValue := by decide,
          commaFreeName := by decide, colonFreeName := by decide, commaFreeValue := by decide }
      let item : WrittenPair :=
        { name := "[the] item", value := "",
          beforeName := nothing, afterName := nothing, beforeValue := indent, afterValue := nothing,
          named := by decide, tightName := by decide, tightValue := by decide,
          commaFreeName := by decide, colonFreeName := by decide, commaFreeValue := by decide }
      let key : WrittenKey :=
        { base := "cart", count := some ⟨2, 7, by decide⟩,
          pairs := some ⟨[who, item], by simp, by decide⟩,
          nonempty := by decide, bracketFree := by decide, braceFree := by decide }
      let text := "cart[007]\x7b\n\twho :a[1]\x7bb:c\x7d ,[the] item:\n\t\x7d"
      key.text = text
        ∧ parse text =
          ⟨"cart", some 7,
            some (.ofList [("who", .text "a[1]\x7bb:c\x7d"), ("[the] item", .text "")])⟩ := by
  intro nothing blank indent who item key text
  have written : key.text = text := by decide
  have parsed := parse_writtenKey key
  rw [written] at parsed
  exact ⟨written, parsed⟩

end Phrasebook.ComposedKey
