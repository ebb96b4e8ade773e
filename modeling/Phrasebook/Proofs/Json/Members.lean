import Phrasebook.Json.Reader

/-! The members of an object that is read have pairwise different names, at any depth, since they
are collected when the object is closed.
-/

namespace Phrasebook.Json

mutual

/-- Requires the members of every object in a value to have pairwise different names. -/
def Distinct : Json → Prop
  | .array items => DistinctItems items
  | .object members => Ordered.Distinct members ∧ DistinctMembers members
  | .null | .bool _ | .number _ | .string _ => True

/-- Requires it of every item. -/
def DistinctItems : List Json → Prop
  | [] => True
  | item :: items => Distinct item ∧ DistinctItems items

/-- Requires it of the value of every member. -/
def DistinctMembers : List (String × Json) → Prop
  | [] => True
  | (_, value) :: members => Distinct value ∧ DistinctMembers members

end

theorem distinctItems_iff {items : List Json}
    : DistinctItems items ↔ ∀ item ∈ items, item.Distinct := by
  induction items with
  | nil => simp [DistinctItems]
  | cons item items ih => simp [DistinctItems, ih]

theorem distinctMembers_iff {members : List (String × Json)}
    : DistinctMembers members ↔ ∀ member ∈ members, member.2.Distinct := by
  induction members with
  | nil => simp [DistinctMembers]
  | cons member members ih => simp [DistinctMembers, ih]

/-- Requires the values that an open array or object has so far to be distinct. -/
def Frame.Distinct : Frame → Prop
  | .array done => ∀ item ∈ done, item.Distinct
  | .object done _ => ∀ member ∈ done, member.2.Distinct

/-- Requires the value of an answer to be distinct. -/
def Outcome.Distinct : Outcome → Prop
  | .ok (value, _) => value.Distinct
  | .error _ => True

/-- An array is distinct when it is closed over distinct items. -/
theorem distinct_closeArray {value : Json} {done : List Json} (last : value.Distinct)
    (before : ∀ item ∈ done, item.Distinct)
    : (Json.array (value :: done).reverse).Distinct := by
  rw [Distinct, distinctItems_iff]
  intro item member
  rcases List.mem_cons.mp (List.mem_reverse.mp member) with rfl | earlier
  · exact last
  · exact before item earlier

/-- An object is distinct when it is closed over distinct values, whatever their names. -/
theorem distinct_closeObject {name : String} {value : Json} {done : List (String × Json)}
    (last : value.Distinct) (before : ∀ member ∈ done, member.2.Distinct)
    : (Json.object (Ordered.collect ((name, value) :: done).reverse)).Distinct := by
  rw [Distinct, distinctMembers_iff]
  refine ⟨Ordered.distinct_collect _, ?_⟩
  intro pair member
  have written := List.mem_reverse.mp (Ordered.mem_of_mem_collect member)
  rcases List.mem_cons.mp written with rfl | earlier
  · exact last
  · exact before pair earlier

-- Each of the three calls the others on fewer tokens, and the frames of the stack stay distinct.
mutual

theorem readValue_distinct (admits : Json → Bool) (slot : Slot) (stack : List Frame)
    (tokens : List Token) (frames : ∀ frame ∈ stack, frame.Distinct)
    : Outcome.Distinct (readValue admits slot stack tokens) := by
  cases tokens with
  | nil => trivial
  | cons token rest =>
      cases lexeme : token.lexeme with
      | null | bool | number | string =>
          simp only [readValue, lexeme]
          exact deliver_distinct admits _ stack rest frames trivial
      | openArray =>
          simp only [readValue, lexeme]
          split
          · refine readValue_distinct admits _ _ rest ?_
            simpa [Frame.Distinct] using frames
          · trivial
      | openObject =>
          simp only [readValue, lexeme]
          split
          · exact readName_distinct admits _ _ stack rest frames (by simp)
          · trivial
      | closeArray =>
          simp only [readValue, lexeme]
          split
          · next outer =>
              refine deliver_distinct admits _ outer rest ?_ trivial
              exact fun frame member => frames frame (List.mem_cons_of_mem _ member)
          · trivial
          · trivial
      | closeObject | colon | comma | brokenString | broken =>
          simp only [readValue, lexeme]
          trivial
termination_by sizeOf tokens

theorem readName_distinct (admits : Json → Bool) (slot : Slot) (done : List (String × Json))
    (stack : List Frame) (tokens : List Token) (frames : ∀ frame ∈ stack, frame.Distinct)
    (values : ∀ member ∈ done, member.2.Distinct)
    : Outcome.Distinct (readName admits slot done stack tokens) := by
  cases tokens with
  | nil => trivial
  | cons token rest =>
      unfold readName
      split
      · next name _ =>
          split
          · trivial
          · next separator rest =>
              split
              · refine readValue_distinct admits _ _ rest ?_
                exact List.forall_mem_cons.mpr ⟨values, frames⟩
              · trivial
      · trivial
      · split
        · exact deliver_distinct admits _ stack rest frames ⟨by simp [Ordered.Distinct], trivial⟩
        · trivial
      · trivial
termination_by sizeOf tokens

theorem deliver_distinct (admits : Json → Bool) (value : Json) (stack : List Frame)
    (tokens : List Token) (frames : ∀ frame ∈ stack, frame.Distinct) (own : value.Distinct)
    : Outcome.Distinct (deliver admits value stack tokens) := by
  cases stack with
  | nil =>
      rw [deliver]
      exact own
  | cons frame outer =>
      obtain ⟨inner, others⟩ := List.forall_mem_cons.mp frames
      cases frame with
      | array done =>
          cases tokens with
          | nil => trivial
          | cons token rest =>
              unfold deliver
              split
              · refine readValue_distinct admits _ _ rest ?_
                refine List.forall_mem_cons.mpr ⟨?_, others⟩
                exact List.forall_mem_cons.mpr ⟨own, inner⟩
              · exact deliver_distinct admits _ outer rest others (distinct_closeArray own inner)
              · trivial
      | object done name =>
          unfold deliver
          split
          · trivial
          · split
            · trivial
            · next token rest =>
                split
                · refine readName_distinct admits _ _ outer rest others ?_
                  exact List.forall_mem_cons.mpr ⟨own, inner⟩
                · exact deliver_distinct admits _ outer rest others (distinct_closeObject own inner)
                · trivial
termination_by sizeOf tokens

end

theorem eq_of_complete {outcome : Outcome} {value : Json} (completed : complete outcome = .ok value)
    : outcome = .ok (value, []) := by
  unfold complete at completed
  split at completed
  · rw [Except.ok.inj completed]
  · contradiction
  · contradiction

theorem distinct_of_complete {answer : Outcome} {value : Json} (distinct : answer.Distinct)
    (completed : complete answer = .ok value)
    : value.Distinct := by
  rwa [eq_of_complete completed] at distinct

theorem ok_of_located {α : Type} {text : List Char} {result : Except Fault α} {a : α}
    (placed : located text result = .ok a)
    : result = .ok a := by
  cases result with
  | ok b => exact congrArg Except.ok (Except.ok.inj placed)
  | error fault => contradiction

/-- A result that was mapped is the image of one that was not. -/
theorem exists_of_map_eq_ok {ε α β : Type} {f : α → β} {result : Except ε α} {b : β}
    (mapped : result.map f = .ok b)
    : ∃ a, result = .ok a ∧ f a = b := by
  cases result with
  | ok a => exact ⟨a, rfl, Except.ok.inj mapped⟩
  | error fault => contradiction

theorem distinct_of_parse {text : String} {value : Json} (read : parse text = .ok value)
    : value.Distinct := by
  have completed := ok_of_located read
  exact distinct_of_complete (readValue_distinct _ _ _ _ (by simp)) completed

/-- An object that is read from a text is distinct. -/
theorem distinct_of_readObjectTokens {admits : Json → Bool} {tokens : List Token} {value : Json}
    (read : readObjectTokens admits tokens = .ok value)
    : value.Distinct := by
  unfold readObjectTokens at read
  split at read
  · contradiction
  · next token rest =>
      split at read
      · exact distinct_of_complete (readName_distinct _ _ _ _ _ (by simp) (by simp)) read
      all_goals contradiction

/-- The members of an object that is read have pairwise different names, and so on in their values.
-/
theorem distinct_of_parseObject {admits : Json → Bool} {text : String}
    {found : List (String × Json)} (read : parseObject admits text = .ok found)
    : (object found).Distinct := by
  obtain ⟨value, placed, rfl⟩ := exists_of_map_eq_ok read
  have distinct := distinct_of_readObjectTokens (ok_of_located placed)
  cases value with
  | object => exact distinct
  | null | bool | number | string | array => exact ⟨by simp [members, Ordered.Distinct], trivial⟩

end Phrasebook.Json
