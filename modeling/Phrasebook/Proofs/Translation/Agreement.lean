import Phrasebook.Translation

/-! Dictionaries that agree on every key. Translating reads nothing of a dictionary but the
templates that keys lead to, so such dictionaries give the same texts.
-/

namespace Phrasebook.Dictionary

/-- Requires every key to lead to the same template in both dictionaries, or in neither to any. -/
def Agrees (d e : Dictionary) : Prop :=
  ∀ key, d.lookup key = e.lookup key

namespace Agrees

variable {d e : Dictionary}

theorem resolveDirect_eq (agree : d.Agrees e) (key : String) (bindings : Option Bindings)
    : d.resolveDirect key bindings = e.resolveDirect key bindings := by
  unfold resolveDirect
  rw [agree key]

theorem resolvePlural_eq (agree : d.Agrees e) (key : String) (count : Int64)
    (bindings : Option Bindings)
    : d.resolvePlural key count bindings = e.resolvePlural key count bindings := by
  unfold resolvePlural
  rw [agree key]

theorem resolveComposed_eq (agree : d.Agrees e) (key : String)
    : d.resolveComposed key = e.resolveComposed key := by
  simp only [resolveComposed, agree.resolveDirect_eq, agree.resolvePlural_eq]

theorem translate_eq (agree : d.Agrees e) (key : String) (argument : Argument)
    : d.translate key argument = e.translate key argument := by
  rw [translate, translate, agree.resolveDirect_eq, agree.resolveComposed_eq]

theorem translatePlural_eq (agree : d.Agrees e) (key : String) (count : Int64)
    (argument : Argument)
    : d.translatePlural key count argument = e.translatePlural key count argument :=
  agree.resolvePlural_eq key count argument.normalize

end Agrees

end Phrasebook.Dictionary
