import Phrasebook.Dictionary.Basic
import Phrasebook.Text.EditDistance

/-! Known keys that a mistyped key may stand for.
-/

namespace Phrasebook

/-- The greatest distance of a suggested key. -/
def maxEdits : Nat :=
  2

/-- The greatest number of suggested keys. -/
def maxSuggestions : Nat :=
  3

/-- The available keys that are near the key, the nearest first, and in the order of the list where
they are equally near.
-/
def suggestions (key : String) (available : List String) : List String :=
  let scored := available.map fun candidate => (Text.editDistance key candidate, candidate)
  let near := scored.filter fun (distance, _) => distance ≤ maxEdits
  let ranked := near.mergeSort fun a b => a.1 ≤ b.1
  (ranked.take maxSuggestions).map Prod.snd

/-- The keys of templates of d that are near the key. -/
def Dictionary.suggestions (d : Dictionary) (key : String) : List String :=
  Phrasebook.suggestions key d.leafKeys

end Phrasebook
