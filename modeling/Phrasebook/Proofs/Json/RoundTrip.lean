import Phrasebook.Proofs.Json.Admission
import Phrasebook.Proofs.Json.Lexemes

/-! A value is read back from its text. From tokens with the lexemes of a value the reader delivers
that value to the frames around it, as long as these and the brackets of the value are not too many
at once.
-/

namespace Phrasebook.Json

section

variable {admits : Json → Bool}

/-- Requires tokens with the lexemes of the value to be read as the value, before any others. If the
value is the outermost one, its members must be admitted.
-/
def Readable (admits : Json → Bool) (value : Json) : Prop :=
  ∀ slot stack {tokens found}, (stack = [] → AllAdmitted admits value.members) →
    stack.length + value.depth ≤ maxDepth → tokens.map Token.lexeme = value.lexemes ++ found →
      ∃ later, later.map Token.lexeme = found
        ∧ readValue admits slot stack tokens = deliver admits value stack later

theorem Readable.within {value : Json} (readable : value.Readable admits) (slot : Slot)
    {frame : Frame} {stack : List Frame} {tokens : List Token} {found : List Lexeme}
    (fits : stack.length + 1 + value.depth ≤ maxDepth)
    (lexemes : tokens.map Token.lexeme = value.lexemes ++ found)
    : ∃ later, later.map Token.lexeme = found
        ∧ readValue admits slot (frame :: stack) tokens =
          deliver admits value (frame :: stack) later :=
  readable slot (frame :: stack) (fun top => absurd top (List.cons_ne_nil _ _)) fits lexemes

/-- The items that are left of an array are read behind those that are done, by induction on the
items that are left.
-/
theorem readValue_items {items : List Json} (left : items ≠ [])
    (each : ∀ item ∈ items, item.Readable admits) {stack : List Frame}
    (shallow : ∀ item ∈ items, stack.length + 1 + item.depth ≤ maxDepth) (slot : Slot)
    (done : List Json) {tokens : List Token} {found : List Lexeme}
    (lexemes : tokens.map Token.lexeme = itemLexemes items ++ found)
    : ∃ later, later.map Token.lexeme = found
        ∧ readValue admits slot (.array done :: stack) tokens =
          deliver admits (.array (done.reverse ++ items)) stack later := by
  induction items generalizing slot done tokens with
  | nil => contradiction
  | cons item items ih =>
      obtain ⟨here, rest⟩ := List.forall_mem_cons.mp each
      obtain ⟨fits, fit⟩ := List.forall_mem_cons.mp shallow
      cases items with
      | nil =>
          rw [itemLexemes, List.append_assoc] at lexemes
          obtain ⟨after, ended, read⟩ := here.within slot fits lexemes
          obtain ⟨token, later, rfl, close, others⟩ := List.map_eq_cons_iff.mp ended
          refine ⟨later, others, ?_⟩
          rw [read, deliver, close, List.reverse_cons]
      | cons next items =>
          rw [itemLexemes, List.append_assoc] at lexemes
          · obtain ⟨after, ended, read⟩ := here.within slot fits lexemes
            obtain ⟨token, more, rfl, comma, others⟩ := List.map_eq_cons_iff.mp ended
            obtain ⟨later, last, reads⟩ :=
              ih (List.cons_ne_nil _ _) rest fit .next (item :: done) others
            refine ⟨later, last, ?_⟩
            rw [read, deliver, comma]
            simpa using reads
          · simp

/-- A member is read up to the end of its value. -/
theorem readName_member {name : String} {value : Json} (readable : value.Readable admits)
    {stack : List Frame} (fits : stack.length + 1 + value.depth ≤ maxDepth) (slot : Slot)
    (done : List (String × Json)) {tokens : List Token} {found : List Lexeme}
    (lexemes : tokens.map Token.lexeme = .string name :: .colon :: (value.lexemes ++ found))
    : ∃ after, after.map Token.lexeme = found
        ∧ readName admits slot done stack tokens =
          deliver admits value (.object done name :: stack) after := by
  obtain ⟨first, more, rfl, string, named⟩ := List.map_eq_cons_iff.mp lexemes
  obtain ⟨second, tokens, rfl, colon, valued⟩ := List.map_eq_cons_iff.mp named
  simp only [readName, string, colon]
  exact readable.within .only fits valued

/-- The members that are left of an object are read behind those that are done, by induction on the
members that are left.
-/
theorem readName_members {members : List (String × Json)} (left : members ≠ [])
    (each : ∀ member ∈ members, member.2.Readable admits) {stack : List Frame}
    (admitted : stack = [] → AllAdmitted admits members)
    (shallow : ∀ member ∈ members, stack.length + 1 + member.2.depth ≤ maxDepth) (slot : Slot)
    (done : List (String × Json)) {tokens : List Token} {found : List Lexeme}
    (lexemes : tokens.map Token.lexeme = memberLexemes members ++ found)
    : ∃ later, later.map Token.lexeme = found
        ∧ readName admits slot done stack tokens =
          deliver admits (.object (Ordered.collect (done.reverse ++ members))) stack later := by
  induction members generalizing slot done tokens with
  | nil => contradiction
  | cons member members ih =>
      obtain ⟨name, value⟩ := member
      obtain ⟨here, rest⟩ := List.forall_mem_cons.mp each
      obtain ⟨fits, fit⟩ := List.forall_mem_cons.mp shallow
      have passes : ¬(stack.isEmpty && !admits value) := by
        cases stack with
        | nil => simp [(List.forall_mem_cons.mp (admitted rfl)).1]
        | cons => simp
      cases members with
      | nil =>
          simp only [memberLexemes, List.cons_append, List.append_assoc] at lexemes
          obtain ⟨after, ended, read⟩ := readName_member here fits slot done lexemes
          obtain ⟨token, later, rfl, close, others⟩ := List.map_eq_cons_iff.mp ended
          refine ⟨later, others, ?_⟩
          rw [read, deliver, if_neg passes, close, List.reverse_cons]
      | cons next members =>
          simp only [memberLexemes, List.cons_append, List.append_assoc] at lexemes
          obtain ⟨after, ended, read⟩ := readName_member here fits slot done lexemes
          obtain ⟨token, more, rfl, comma, others⟩ := List.map_eq_cons_iff.mp ended
          obtain ⟨later, last, reads⟩ := ih (List.cons_ne_nil _ _) rest
            (fun top => (List.forall_mem_cons.mp (admitted top)).2) fit .next
            ((name, value) :: done) others
          refine ⟨later, last, ?_⟩
          rw [read, deliver, if_neg passes, comma]
          simpa using reads

/-- The members of an object are read after its opening brace, also if there are none. -/
theorem readName_object {members : List (String × Json)} (distinct : Ordered.Distinct members)
    (each : ∀ member ∈ members, member.2.Readable admits) {stack : List Frame}
    (admitted : stack = [] → AllAdmitted admits members)
    (fits : stack.length + (object members).depth ≤ maxDepth)
    {tokens : List Token} {found : List Lexeme}
    (lexemes : tokens.map Token.lexeme = memberLexemes members ++ found)
    : ∃ later, later.map Token.lexeme = found
        ∧ readName admits .first [] stack tokens =
          deliver admits (.object members) stack later := by
  cases members with
  | nil =>
      obtain ⟨token, later, rfl, close, others⟩ := List.map_eq_cons_iff.mp lexemes
      refine ⟨later, others, ?_⟩
      rw [readName, close]
      exact if_pos rfl
  | cons member members =>
      have shallow : ∀ each ∈ member :: members,
          stack.length + 1 + each.2.depth ≤ maxDepth := by
        intro each listed
        have smaller := depth_member_lt listed
        omega
      have read :=
        readName_members (List.cons_ne_nil _ _) each admitted shallow .first [] lexemes
      rwa [List.reverse_nil, List.nil_append, Ordered.collect_eq_self distinct] at read

/-- A value with pairwise different names in its objects is read from its lexemes, by induction on
the value.
-/
theorem readable_of_distinct {value : Json} (distinct : value.Distinct)
    : value.Readable admits := by
  induction value using Json.induction with
  | null | bool | number | string =>
      intro slot stack tokens found admitted fits lexemes
      obtain ⟨token, later, rfl, here, others⟩ := List.map_eq_cons_iff.mp lexemes
      refine ⟨later, others, ?_⟩
      simp only [readValue, here]
  | array items ih =>
      intro slot stack tokens found admitted fits lexemes
      obtain ⟨token, rest, rfl, bracket, others⟩ := List.map_eq_cons_iff.mp lexemes
      have room : stack.length < maxDepth := by
        rw [depth] at fits
        omega
      simp only [readValue, bracket, if_pos room]
      cases items with
      | nil =>
          obtain ⟨token, later, rfl, close, others⟩ := List.map_eq_cons_iff.mp others
          refine ⟨later, others, ?_⟩
          simp only [readValue, close]
      | cons item items =>
          have each := fun item member => ih item member (distinctItems_iff.mp distinct item member)
          have shallow : ∀ each ∈ item :: items, stack.length + 1 + each.depth ≤ maxDepth := by
            intro each member
            have smaller := depth_item_lt member
            omega
          exact readValue_items (List.cons_ne_nil _ _) each shallow .first [] others
  | object members ih =>
      intro slot stack tokens found admitted fits lexemes
      obtain ⟨token, rest, rfl, brace, others⟩ := List.map_eq_cons_iff.mp lexemes
      have room : stack.length < maxDepth := by
        rw [depth] at fits
        omega
      have each := fun member listed =>
        ih member listed (distinctMembers_iff.mp distinct.2 member listed)
      simp only [readValue, brace, if_pos room]
      exact readName_object distinct.1 each admitted fits others

end

/-- The members of an object without floating-point numbers are read back from its text, if all are
admitted and at most as many brackets are open at once as may be.
-/
theorem parseObject_compact_of_admitted {admits : Json → Bool} {members : List (String × Json)}
    (admitted : AllAdmitted admits members) (distinct : (object members).Distinct)
    (exact : ∀ n ∈ (object members).numbers, n.Exact)
    (shallow : (object members).depth ≤ maxDepth)
    : parseObject admits (object members).compact = .ok members := by
  have lexemes := lexemes_scan_write exact
  obtain ⟨token, tokens, scanned, brace, others⟩ := List.map_eq_cons_iff.mp lexemes
  rw [← List.append_nil (memberLexemes members)] at others
  have fits : ([] : List Frame).length + (object members).depth ≤ maxDepth := by
    simpa using shallow
  have each : ∀ member ∈ members, member.2.Readable admits := fun member listed =>
    readable_of_distinct (distinctMembers_iff.mp distinct.2 member listed)
  obtain ⟨later, ended, read⟩ :=
    readName_object distinct.1 each (fun _ => admitted) fits others
  obtain rfl := List.map_eq_nil_iff.mp ended
  rw [parseObject, compact, String.toList_ofList, scanned, readObjectTokens]
  simp only [brace, read]
  rfl

theorem parseObject_compact {members : List (String × Json)} (distinct : (object members).Distinct)
    (exact : ∀ n ∈ (object members).numbers, n.Exact)
    (shallow : (object members).depth ≤ maxDepth)
    : parseObject (fun _ => true) (object members).compact = .ok members :=
  parseObject_compact_of_admitted (fun _ _ => rfl) distinct exact shallow

end Phrasebook.Json
