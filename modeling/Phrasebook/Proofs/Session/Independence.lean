import Phrasebook.Proofs.Session.History

/-! A change to one translator, or of the active dictionary, makes no difference to the later
replies of the other translators with a source of their own. The others are those that neither are
the changed translator nor were cloned from it after the change. All lists of past steps have the
most recent step first.
-/

namespace Phrasebook

namespace History

/-- The translator after the past from which the one at the index was cloned in the later steps,
over any number of clones, or itself if it was there already.
-/
def origin (past : List Step) : List Step → Nat → Nat
  | [], index => index
  | .clone :: later, index =>
      if index = translators (later ++ past) then origin past later (current (later ++ past))
      else origin past later index
  | _ :: later, index => origin past later index

/-- Requires the step to change the active dictionary, or the source of a translator from which the
one at the index does not stem.
-/
def Spares (past later : List Step) (index : Nat) : Step → Prop
  | .activate _ => True
  | .setSource _ => origin past later index ≠ current past
  | _ => False

/-- The reply to the most recent step. -/
def lastReply (choice : SourceChoice) (steps : List Step) : Option Reply :=
  ((Session.start choice).run steps.reverse).getLast?.map Prod.fst

variable {choice : SourceChoice} {past later : List Step} {index : Nat} {change : Step}

theorem translators_mono (past later : List Step)
    : translators past ≤ translators (later ++ past) := by
  induction later with
  | nil => exact Nat.le_refl _
  | cons step later ih =>
      cases step with
      | clone => exact Nat.le_succ_of_le ih
      | translate | suggest | snapshot | inspect | setSource | activate | use => exact ih

/-- A translator that is there already is its own origin, since clones get new indices. -/
theorem origin_of_lt (past later : List Step) (index : Nat) (there : index < translators past)
    : origin past later index = index := by
  induction later with
  | nil => rfl
  | cons step later ih =>
      cases step with
      | clone =>
          have older := Nat.lt_of_lt_of_le there (translators_mono past later)
          rw [origin, if_neg (Nat.ne_of_lt older), ih]
      | translate | suggest | snapshot | inspect | setSource | activate | use => exact ih

-----------------------------------------------------------------------------------------
-- The past with the change and the past without it
-----------------------------------------------------------------------------------------

theorem current_insert (spares : Spares past later index change) (after : List Step)
    : current (after ++ change :: past) = current (after ++ past) := by
  induction after with
  | nil =>
      cases change with
      | setSource | activate => rfl
      | translate | suggest | snapshot | inspect | clone | use => exact spares.elim
  | cons step after ih =>
      cases step with
      | use => rfl
      | translate | suggest | snapshot | inspect | setSource | activate | clone => exact ih

theorem translators_insert (spares : Spares past later index change) (after : List Step)
    : translators (after ++ change :: past) = translators (after ++ past) := by
  induction after with
  | nil =>
      cases change with
      | setSource | activate => rfl
      | translate | suggest | snapshot | inspect | clone | use => exact spares.elim
  | cons step after ih =>
      cases step with
      | clone => exact congrArg (· + 1) ih
      | translate | suggest | snapshot | inspect | setSource | activate | use => exact ih

/-- A translator that stems from a spared one is spared. -/
theorem Spares.of_origin_eq {later' : List Step} {index' : Nat}
    (spares : Spares past later index change)
    (same : origin past later index = origin past later' index')
    : Spares past later' index' change := by
  cases change with
  | setSource own => exact fun changed => spares (same.trans changed)
  | activate d => trivial
  | translate | suggest | snapshot | inspect | clone | use => exact spares.elim

/-- A spared translator has the same source with and without the change, by induction on the later
steps: a later change of the translator itself is made in both pasts.
-/
theorem source_insert (spares : Spares past later index change)
    : source choice (later ++ change :: past) index = source choice (later ++ past) index := by
  induction later generalizing index with
  | nil =>
      cases change with
      | setSource own => exact if_neg fun changed => spares changed.1
      | activate d => rfl
      | translate | suggest | snapshot | inspect | clone | use => exact spares.elim
  | cons step later ih =>
      have here := current_insert spares later
      have size := translators_insert spares later
      cases step with
      | setSource own =>
          have before : Spares past later index change := spares.of_origin_eq rfl
          simp only [List.cons_append, source, here, size, ih before]
      | clone =>
          simp only [List.cons_append, source, here, size]
          by_cases new : index = translators (later ++ past)
          · have before := spares.of_origin_eq (if_pos new)
            rw [if_pos new, if_pos new, ih before]
          · have before := spares.of_origin_eq (if_neg new)
            rw [if_neg new, if_neg new, ih before]
      | translate | suggest | snapshot | inspect | activate | use =>
          have before : Spares past later index change := spares.of_origin_eq rfl
          exact ih before

/-- A source that does not change gives the same replies if it has its own dictionary. -/
theorem reply_insert (spares : Spares past later (current (later ++ past)) change) {d : Dictionary}
    (own : inUse choice (later ++ past) = .fixed d) (step : Step)
    : reply choice (later ++ change :: past) step = reply choice (later ++ past) step := by
  have same : inUse choice (later ++ change :: past) = inUse choice (later ++ past) := by
    rw [inUse, current_insert spares later, source_insert spares, inUse]
  have reads : dictionary choice (later ++ change :: past) = dictionary choice (later ++ past) := by
    rw [dictionary, dictionary, same, own]
  cases step with
  | translate key count argument => cases count <;> simp only [reply, reads]
  | suggest | snapshot => simp only [reply, reads]
  | inspect => simp only [reply, same]
  | clone => simp only [reply, translators_insert spares later]
  | setSource | activate | use => rfl

-----------------------------------------------------------------------------------------
-- Runs
-----------------------------------------------------------------------------------------

open Session

/-- Every step of a run is answered as its past says. -/
theorem run_getElem?_start (choice : SourceChoice) (past : List Step) (step : Step)
    (later : List Step)
    : ((start choice).run (past.reverse ++ step :: later))[past.length]? =
      some (reply choice past step, asked choice (step :: past)) := by
  have answered := (reflects_start choice).run_getElem? past.reverse step later
  rw [List.reverse_reverse, List.append_nil, List.length_reverse] at answered
  exact answered

theorem length_run (session : Session) (steps : List Step)
    : (session.run steps).length = steps.length := by
  induction steps generalizing session with
  | nil => rfl
  | cons step steps ih => exact congrArg (· + 1) (ih _)

theorem lastReply_cons (choice : SourceChoice) (past : List Step) (step : Step)
    : lastReply choice (step :: past) = some (reply choice past step) := by
  have answered := run_getElem?_start choice past step []
  have last : ((start choice).run (step :: past).reverse).length - 1 = past.length := by
    rw [length_run]
    simp
  rw [lastReply, List.getLast?_eq_getElem?, last, List.reverse_cons, answered]
  rfl

/-- In every session, each step is answered from the past: a question by what is computed from the
one dictionary that the source in use stands for at the time. The calls of providers so far are as
many as the questions to translators whose source was a provider at the time. A change of the active
dictionary or of another translator's source makes no difference to the source of a translator, nor
to any later reply of it while it has its own dictionary; and translators that are there at the time
of the change stem from no other.
-/
theorem run_answers_from_past (choice : SourceChoice)
    : (∀ past step later,
        ((start choice).run (past.reverse ++ step :: later))[past.length]? =
          some (reply choice past step, asked choice (step :: past)))
      ∧ (∀ past change later step d,
          Spares past later (current (later ++ past)) change
          → inUse choice (later ++ past) = .fixed d
          → inUse choice (later ++ change :: past) = .fixed d
            ∧ lastReply choice (step :: later ++ change :: past) =
              lastReply choice (step :: later ++ past))
      ∧ ∀ past later index, index < translators past → origin past later index = index := by
  refine ⟨run_getElem?_start choice, ?_, origin_of_lt⟩
  intro past change later step d spares own
  constructor
  · rw [inUse, current_insert spares later, source_insert spares, ← inUse, own]
  · rw [List.cons_append, List.cons_append, lastReply_cons, lastReply_cons,
      reply_insert spares own]

/-- A clone keeps its replies when the translator it was made from is given a provider, which is
asked once for a composed key.
-/
theorem clone_keeps_replies
    : let english : Dictionary := ⟨[("n", .text "one|many")]⟩
      let german : Dictionary := ⟨[("n", .text "eins|viele")]⟩
      let ask : Step := .translate "n[2]" none .none
      let change : Step := .setSource (.provider german)
      ((start (.fixed english)).run [.clone, change, ask, .use 1])[2]? = some (.text "viele", 1)
        ∧ Spares [.clone] [.use 1, ask] 1 change
        ∧ lastReply (.fixed english) [ask, .use 1, ask, change, .clone] = some (.text "many")
        ∧ origin [.clone] [.use 1, ask] 1 = 1 := by
  intro english german ask change
  obtain ⟨answered, kept, old⟩ := run_answers_from_past (.fixed english)
  have spares : Spares [.clone] [.use 1, ask] 1 change := Nat.one_ne_zero
  have same := (kept [.clone] change [.use 1, ask] ask english spares rfl).2
  have unchanged : lastReply (.fixed english) [ask, .use 1, ask, .clone] = some (.text "many") :=
    rfl
  exact ⟨answered [change, .clone] ask [.use 1], spares, same.trans unchanged,
    old [.clone] [.use 1, ask] 1 (by decide)⟩

end History

end Phrasebook
