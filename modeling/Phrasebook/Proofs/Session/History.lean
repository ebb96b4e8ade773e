import Phrasebook.Session

/-! What a session answers, told from its past alone. The source of a translator is the last one
that was set on it, or else the one that the translator it was cloned from had at that time. A
provider is asked once for every question to a translator that has it. All lists of past steps have
the most recent step first.
-/

namespace Phrasebook

/-- Whether the step uses the dictionary of the translator in use. -/
def Step.isQuestion : Step → Bool
  | .translate _ _ _ | .suggest _ | .snapshot => true
  | .inspect | .setSource _ | .activate _ | .clone | .use _ => false

def Source.isProvider : Source → Bool
  | .fixed _ => false
  | .provider => true

theorem Source.cost_eq (source : Source) : source.cost = if source.isProvider then 1 else 0 := by
  cases source <;> rfl

namespace History

/-- The index of the translator in use. -/
def current : List Step → Nat
  | [] => 0
  | .use index :: _ => index
  | _ :: past => current past

/-- The number of translators. -/
def translators : List Step → Nat
  | [] => 1
  | .clone :: past => translators past + 1
  | _ :: past => translators past

/-- The dictionary that was activated last, by itself or with a new provider. -/
def active (choice : SourceChoice) : List Step → Dictionary
  | [] => choice.activeAfter .empty
  | .activate d :: _ => d
  | .setSource (.provider d) :: _ => d
  | _ :: past => active choice past

/-- The source of the translator at the index. Without a translator it has no entries. -/
def source (choice : SourceChoice) : List Step → Nat → Source
  | [], index => if index = 0 then choice.source else .fixed .empty
  | .setSource own :: past, index =>
      if index = current past ∧ index < translators past then own.source
      else source choice past index
  | .clone :: past, index =>
      if index = translators past then source choice past (current past)
      else source choice past index
  | _ :: past, index => source choice past index

/-- The source of the translator in use. -/
def inUse (choice : SourceChoice) (past : List Step) : Source :=
  source choice past (current past)

/-- The one dictionary that the source in use stands for: its own, or the active one. -/
def dictionary (choice : SourceChoice) (past : List Step) : Dictionary :=
  match inUse choice past with
  | .fixed d => d
  | .provider => active choice past

/-- Counts the questions to translators whose source was a provider at the time. -/
def asked (choice : SourceChoice) : List Step → Nat
  | [] => 0
  | step :: past =>
      if step.isQuestion ∧ (inUse choice past).isProvider then asked choice past + 1
      else asked choice past

/-- The reply to a step. -/
def reply (choice : SourceChoice) (past : List Step) : Step → Reply
  | .translate key none argument => .text ((dictionary choice past).translate key argument)
  | .translate key (some count) argument =>
      .text ((dictionary choice past).translatePlural key count argument)
  | .suggest key => .keys (suggestions key (dictionary choice past).leafKeys)
  | .snapshot => .dictionary (dictionary choice past)
  | .inspect => .text (inUse choice past).inspect
  | .clone => .translators (translators past + 1)
  | .setSource _ | .activate _ | .use _ => .done

end History

-----------------------------------------------------------------------------------------
-- A session reflects its past
-----------------------------------------------------------------------------------------

namespace Session

/-- Each part of the session is what the past says. -/
structure Reflects (choice : SourceChoice) (past : List Step) (session : Session) : Prop where
  active : session.active = History.active choice past
  calls : session.calls = History.asked choice past
  current : session.current = History.current past
  size : session.sources.length = History.translators past
  source : ∀ index, session.sources.getD index (.fixed .empty) = History.source choice past index

theorem reflects_start (choice : SourceChoice) : Reflects choice [] (start choice) := by
  refine ⟨rfl, rfl, rfl, rfl, ?_⟩
  intro index
  cases index <;> rfl

namespace Reflects

variable {choice : SourceChoice} {past : List Step} {session : Session}

theorem source_eq (h : Reflects choice past session)
    : session.source = History.inUse choice past := by
  rw [Session.source, h.source, h.current, History.inUse]

theorem dictionary_eq (h : Reflects choice past session)
    : session.source.dictionary session.active = History.dictionary choice past := by
  rw [h.source_eq, h.active, History.dictionary]
  cases History.inUse choice past <;> rfl

/-- A question costs one call of a provider and changes nothing else. -/
theorem ask (h : Reflects choice past session) {step : Step} (question : step.isQuestion = true)
    (answer : Dictionary → Reply)
    : Reflects choice (step :: past) (session.ask answer).1 := by
  have calls : (session.ask answer).1.calls = History.asked choice (step :: past) := by
    simp only [Session.ask, h.calls, h.source_eq, Source.cost_eq, History.asked, question]
    split <;> simp_all
  cases step with
  | translate | suggest | snapshot => exact ⟨h.active, calls, h.current, h.size, h.source⟩
  | inspect | setSource | activate | clone | use => contradiction

theorem setSource (h : Reflects choice past session) (own : SourceChoice)
    : Reflects choice (.setSource own :: past) (session.step (.setSource own)).1 := by
  refine ⟨?_, h.calls, h.current, ?_, ?_⟩
  · cases own with
    | fixed d => exact h.active
    | provider d => rfl
  · rw [step, List.length_set, h.size]
    rfl
  · intro index
    simp only [step, History.source, ← h.source, ← h.current, ← h.size, List.getD_eq_getElem?_getD,
      List.getElem?_set]
    grind

theorem clone (h : Reflects choice past session)
    : Reflects choice (.clone :: past) (session.step .clone).1 := by
  refine ⟨h.active, h.calls, h.current, ?_, ?_⟩
  · rw [step, List.length_append, h.size]
    rfl
  · intro index
    have used : session.source = History.source choice past (History.current past) := h.source_eq
    simp only [step, History.source, ← h.source index, ← h.size, ← used,
      List.getD_eq_getElem?_getD, List.getElem?_append]
    grind

/-- Every step keeps the session what its past says, the step included. -/
theorem step (h : Reflects choice past session) (step : Step)
    : Reflects choice (step :: past) (session.step step).1 := by
  cases step with
  | translate | suggest | snapshot => exact h.ask rfl _
  | inspect => exact ⟨h.active, h.calls, h.current, h.size, h.source⟩
  | setSource own => exact h.setSource own
  | activate d => exact ⟨rfl, h.calls, h.current, h.size, h.source⟩
  | clone => exact h.clone
  | use index => exact ⟨h.active, h.calls, rfl, h.size, h.source⟩

theorem reply_eq (h : Reflects choice past session) (step : Step)
    : (session.step step).2 = History.reply choice past step := by
  cases step with
  | translate key count argument =>
      cases count <;>
        simp only [Session.step, Session.ask, h.dictionary_eq, History.reply, Dictionary.answer]
  | suggest | snapshot =>
      simp only [Session.step, Session.ask, h.dictionary_eq, History.reply, Dictionary.suggestions]
  | inspect => simp only [Session.step, h.source_eq, History.reply]
  | clone => simp only [Session.step, h.size, History.reply]
  | setSource | activate | use => rfl

/-- Every step of a run is answered as its past says, by induction on the steps before it. -/
theorem run_getElem? (h : Reflects choice past session) (before : List Step) (step : Step)
    (later : List Step)
    : (session.run (before ++ step :: later))[before.length]? =
      some (History.reply choice (before.reverse ++ past) step,
        History.asked choice (step :: (before.reverse ++ past))) := by
  induction before generalizing past session with
  | nil =>
      simp [run, h.reply_eq step, (h.step step).calls]
  | cons first before ih =>
      simpa [run] using ih (h.step first)

end Reflects

end Session

end Phrasebook
