import Phrasebook.ComposedKey
import Phrasebook.Dictionary.Lookup
import Phrasebook.Interpolation
import Phrasebook.PluralForm

/-! Translating a key. A key without a template stands for itself, so translating never fails.
-/

namespace Phrasebook

namespace Dictionary

/-- Fills the template at the key, or the key itself if it has none and there are bindings. -/
def resolveDirect (d : Dictionary) (key : String) (bindings : Option Bindings) : Option String :=
  match d.lookup key, bindings with
  | some template, bindings => some (interpolate template bindings)
  | none, some bindings => some (interpolate key (some bindings))
  | none, none => none

/-- With bindings a key always has a text, so it is never unwrapped. -/
theorem resolveDirect_bindings (d : Dictionary) (key : String) (b : Bindings)
    : d.resolveDirect key (some b) = some (interpolate ((d.lookup key).getD key) (some b)) := by
  cases found : d.lookup key <;> simp [resolveDirect, found]

/-- Binds the names count and value to the count, under the bindings. -/
def countBindings (count : Int64) : Option Bindings → Bindings
  | some bindings => (Bindings.ofCount count).merge bindings
  | none => Bindings.ofCount count

/-- Fills the form of the template at the key that is meant for the count. A key without a template
is left as it is.
-/
def resolvePlural (d : Dictionary) (key : String) (count : Int64) (bindings : Option Bindings)
    : String :=
  match d.lookup key with
  | none => key
  | some template =>
      match PluralForm.select count (PluralForm.formsOf template) with
      | none => key
      | some form => interpolate form (some (countBindings count bindings))

/-- Takes a composed key apart, once, and translates its base with what it carries. A key that
cannot be taken apart is left as it is.
-/
def resolveComposed (d : Dictionary) (key : String) : String :=
  if ComposedKey.isComposed key then
    let composed := ComposedKey.parse key
    if ComposedKey.isComposed composed.base then key
    else
      match composed.count, composed.bindings with
      | some count, bindings => d.resolvePlural composed.base count bindings
      | none, some bindings =>
          (d.resolveDirect composed.base (some bindings)).getD composed.base
      | none, none => composed.base
  else key

/-- The text for the key. Without a template and an argument, the key may be a composed one. -/
def translate (d : Dictionary) (key : String) (argument : Argument) : String :=
  (d.resolveDirect key argument.normalize).getD (d.resolveComposed key)

/-- The text for the key and a count. -/
def translatePlural (d : Dictionary) (key : String) (count : Int64) (argument : Argument)
    : String :=
  d.resolvePlural key count argument.normalize

end Dictionary

end Phrasebook
