import Phrasebook.Dictionary.Inspection
import Phrasebook.Suggestion
import Phrasebook.Translation

/-! Sessions with several translators. A translator takes its dictionary from a source: a fixed
dictionary, or a provider that is asked at every use and answers with the dictionary that is
active at the time.
-/

namespace Phrasebook

/-- Where a translator takes its dictionary from. -/
inductive Source where
  | fixed (d : Dictionary)
  | provider

/-- A source in the making. A new provider activates a dictionary. -/
inductive SourceChoice where
  | fixed (d : Dictionary)
  | provider (active : Dictionary)

/-- The active dictionary, the number of times a provider was asked, the sources of the
translators in the order of their creation, and the index of the translator in use.
-/
structure Session where
  active : Dictionary
  calls : Nat
  sources : List Source
  current : Nat

/-- A step of a session: a question to the translator in use, or a change. -/
inductive Step where
  | translate (key : String) (count : Option Int64) (argument : Argument)
  | suggest (key : String)
  | snapshot
  | inspect
  | setSource (choice : SourceChoice)
  | activate (d : Dictionary)
  | clone
  | use (index : Nat)

/-- What a step answers. -/
inductive Reply where
  | text (s : String)
  | keys (keys : List String)
  | dictionary (d : Dictionary)
  | translators (count : Nat)
  | done

namespace Dictionary

/-- Translates a key, as a plural if there is a count. -/
def answer (d : Dictionary) (key : String) (count : Option Int64) (argument : Argument) : String :=
  match count with
  | some count => d.translatePlural key count argument
  | none => d.translate key argument

end Dictionary

/-- The source that is made. -/
def SourceChoice.source : SourceChoice → Source
  | .fixed d => .fixed d
  | .provider _ => .provider

/-- The active dictionary after the choice. -/
def SourceChoice.activeAfter : SourceChoice → Dictionary → Dictionary
  | .fixed _, active => active
  | .provider d, _ => d

namespace Source

/-- The dictionary that the source stands for. -/
def dictionary : Source → Dictionary → Dictionary
  | .fixed d, _ => d
  | .provider, active => active

/-- The number of times a provider is asked at one use. -/
def cost : Source → Nat
  | .fixed _ => 0
  | .provider => 1

/-- Shows a translator with this source. -/
def inspect (source : Source) : String :=
  let shown := match source with
    | .fixed d => Inspection.tagged "Static" d.inspect
    | .provider => "Provider(..)".toList
  String.ofList ("Translator \x7b dictionary: ".toList ++ shown ++ " \x7d".toList)

end Source

namespace Session

/-- A session with one translator. -/
def start (choice : SourceChoice) : Session :=
  ⟨choice.activeAfter .empty, 0, [choice.source], 0⟩

/-- The source of the translator in use. -/
def source (session : Session) : Source :=
  session.sources.getD session.current (.fixed .empty)

/-- Uses the dictionary of the translator in use once. -/
def ask (session : Session) (reply : Dictionary → Reply) : Session × Reply :=
  (⟨session.active, session.calls + session.source.cost, session.sources, session.current⟩,
    reply (session.source.dictionary session.active))

/-- Carries out one step. -/
def step (session : Session) : Step → Session × Reply
  | .translate key count argument => session.ask fun d => .text (d.answer key count argument)
  | .suggest key => session.ask fun d => .keys (d.suggestions key)
  | .snapshot => session.ask .dictionary
  | .inspect => (session, .text session.source.inspect)
  | .setSource choice =>
      (⟨choice.activeAfter session.active, session.calls,
        session.sources.set session.current choice.source, session.current⟩, .done)
  | .activate d => (⟨d, session.calls, session.sources, session.current⟩, .done)
  | .clone =>
      (⟨session.active, session.calls, session.sources ++ [session.source], session.current⟩,
        .translators (session.sources.length + 1))
  | .use index => (⟨session.active, session.calls, session.sources, index⟩, .done)

/-- Carries out the steps in order, and tells after each one its answer and how often a provider was
asked so far.
-/
def run (session : Session) : List Step → List (Reply × Nat)
  | [] => []
  | request :: rest =>
      let (next, reply) := session.step request
      (reply, next.calls) :: next.run rest

end Session

end Phrasebook
