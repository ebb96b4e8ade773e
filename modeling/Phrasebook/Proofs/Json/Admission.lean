import Phrasebook.Proofs.Json.Members

/-! Objects whose members must be admitted. The reader that checks the members of the outermost object
reads what the one without checks reads, and every member that it keeps was admitted.
-/

namespace Phrasebook.Json

/-- Requires every member to be admitted. -/
def AllAdmitted (admits : Json → Bool) (members : List (String × Json)) : Prop :=
  ∀ member ∈ members, admits member.2

/-- Requires the outermost frame to be an open object whose members so far are all admitted. -/
def OpenAdmitted (admits : Json → Bool) : List Frame → Prop
  | [] => False
  | .array _ :: outer => OpenAdmitted admits outer
  | .object done _ :: outer => outer = [] ∧ AllAdmitted admits done ∨ OpenAdmitted admits outer

/-- Requires an answer to be an object of admitted members that is read without checks as well. -/
def ReadsAdmitted (admits : Json → Bool) (unchecked : Outcome) (answer : Json × List Token)
    : Prop :=
  unchecked = .ok answer ∧ ∃ members, answer.1 = .object members ∧ AllAdmitted admits members

variable {admits : Json → Bool} {answer : Json × List Token}

theorem AllAdmitted.closeObject {name : String} {value : Json} {done : List (String × Json)}
    (before : AllAdmitted admits done) (last : admits value)
    : AllAdmitted admits (Ordered.collect ((name, value) :: done).reverse) := by
  intro member kept
  have written := List.mem_reverse.mp (Ordered.mem_of_mem_collect kept)
  rcases List.mem_cons.mp written with rfl | earlier
  · exact last
  · exact before member earlier

-- Each of the three calls the others on fewer tokens, and the outermost object stays the last frame.
mutual

theorem readValue_admitted (slot : Slot) (stack : List Frame) (tokens : List Token)
    (frames : OpenAdmitted admits stack)
    (start : slot = .first → OpenAdmitted admits stack.tail)
    (read : readValue admits slot stack tokens = .ok answer)
    : ReadsAdmitted admits (readValue (fun _ => true) slot stack tokens) answer := by
  cases tokens with
  | nil => contradiction
  | cons token rest =>
      cases lexeme : token.lexeme with
      | null | bool | number | string =>
          simp only [readValue, lexeme] at read ⊢
          exact deliver_admitted _ stack rest (.inr frames) read
      | openArray =>
          simp only [readValue, lexeme] at read ⊢
          split at read
          · next shallow =>
              rw [if_pos shallow]
              exact readValue_admitted _ _ rest frames (fun _ => frames) read
          · contradiction
      | openObject =>
          simp only [readValue, lexeme] at read ⊢
          split at read
          · next shallow =>
              rw [if_pos shallow]
              exact readName_admitted _ _ stack rest (.inr frames) read
          · contradiction
      | closeArray =>
          simp only [readValue, lexeme] at read ⊢
          split at read
          · next frame outer =>
              exact deliver_admitted _ outer rest (.inr (start rfl)) read
          · contradiction
          · contradiction
      | closeObject | colon | comma | brokenString | broken =>
          simp only [readValue, lexeme] at read
          contradiction
termination_by sizeOf tokens

theorem readName_admitted (slot : Slot) (done : List (String × Json)) (stack : List Frame)
    (tokens : List Token)
    (frames : stack = [] ∧ AllAdmitted admits done ∨ OpenAdmitted admits stack)
    (read : readName admits slot done stack tokens = .ok answer)
    : ReadsAdmitted admits (readName (fun _ => true) slot done stack tokens) answer := by
  cases tokens with
  | nil => contradiction
  | cons token rest =>
      unfold readName at read ⊢
      split at read
      · next name _ =>
          split at read
          · contradiction
          · next separator rest =>
              split at read
              · exact readValue_admitted _ _ rest frames (by simp) read
              · contradiction
      · contradiction
      · split at read
        · next first =>
            rw [if_pos first]
            refine deliver_admitted _ stack rest ?_ read
            exact frames.imp_left fun top => ⟨top.1, [], rfl, List.forall_mem_nil _⟩
        · contradiction
      · contradiction
termination_by sizeOf tokens

theorem deliver_admitted (value : Json) (stack : List Frame) (tokens : List Token)
    (frames : (stack = [] ∧ ∃ members, value = .object members ∧ AllAdmitted admits members)
      ∨ OpenAdmitted admits stack)
    (read : deliver admits value stack tokens = .ok answer)
    : ReadsAdmitted admits (deliver (fun _ => true) value stack tokens) answer := by
  cases stack with
  | nil =>
      rw [deliver] at read ⊢
      obtain rfl := Except.ok.inj read
      exact ⟨rfl, (frames.resolve_right id).2⟩
  | cons frame outer =>
      replace frames := frames.resolve_left fun top => List.cons_ne_nil _ _ top.1
      cases frame with
      | array done =>
          cases tokens with
          | nil => contradiction
          | cons token rest =>
              unfold deliver at read ⊢
              split at read
              · exact readValue_admitted _ _ rest frames (by simp) read
              · exact deliver_admitted _ outer rest (.inr frames) read
              · contradiction
      | object done name =>
          unfold deliver at read ⊢
          split at read
          · contradiction
          · next passed =>
              have kept : outer = [] ∧ AllAdmitted admits done ∧ admits value
                  ∨ OpenAdmitted admits outer := by
                rcases frames with ⟨rfl, before⟩ | inner
                · exact .inl ⟨rfl, before, by simpa using passed⟩
                · exact .inr inner
              rw [if_neg (by simp)]
              split at read
              · contradiction
              · next token rest =>
                  split at read
                  · refine readName_admitted _ _ outer rest ?_ read
                    exact kept.imp_left fun top =>
                      ⟨top.1, List.forall_mem_cons.mpr ⟨top.2.2, top.2.1⟩⟩
                  · refine deliver_admitted _ outer rest ?_ read
                    exact kept.imp_left fun top => ⟨top.1, _, rfl, top.2.1.closeObject top.2.2⟩
                  · contradiction
termination_by sizeOf tokens

end

/-- An object whose members are checked is read as the same object without checks. -/
theorem readTokens_of_readObjectTokens {tokens : List Token} {value : Json}
    (read : readObjectTokens admits tokens = .ok value)
    : readTokens tokens = .ok value
      ∧ ∃ members, value = .object members ∧ AllAdmitted admits members := by
  unfold readObjectTokens at read
  split at read
  · contradiction
  · next token rest =>
      split at read
      · next opened =>
          have found := eq_of_complete read
          obtain ⟨unchecked, admitted⟩ := readName_admitted _ _ _ rest
            (.inl ⟨rfl, List.forall_mem_nil _⟩) found
          have same : readValue (fun _ => true) .only [] (token :: rest) = .ok (value, []) := by
            simp only [readValue, opened]
            exact unchecked
          rw [readTokens, same]
          exact ⟨rfl, admitted⟩
      all_goals contradiction

/-- The members of an object that is read with checks are those of the object that the text is, and all
of them were admitted.
-/
theorem parse_of_parseObject {text : String} {found : List (String × Json)}
    (read : parseObject admits text = .ok found)
    : parse text = .ok (.object found) ∧ AllAdmitted admits found := by
  obtain ⟨value, placed, rfl⟩ := exists_of_map_eq_ok read
  obtain ⟨unchecked, members, rfl, admitted⟩ :=
    readTokens_of_readObjectTokens (ok_of_located placed)
  rw [parse, unchecked]
  exact ⟨rfl, admitted⟩

end Phrasebook.Json
