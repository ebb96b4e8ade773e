import Phrasebook.Suggestion

/-! How much of a source dictionary the dictionary of another language covers.
-/

namespace Phrasebook

/-- The figures for one language: the number of source keys that it has, the source keys that it
lacks, and its keys that the source does not have.
-/
structure Coverage where
  language : String
  translated : Nat
  missing : List String
  extra : List String
  deriving DecidableEq

namespace Coverage

/-- Counts the different keys that are in both lists. -/
def common (a b : List String) : Nat :=
  (a.eraseDups.filter b.contains).length

/-- The keys of a that are not in b. -/
def without (a b : List String) : List String :=
  a.filter fun key => !b.contains key

/-- Compares the keys of a language with those of the source. -/
def compare (language : String) (source translated : List String) : Coverage where
  language := language
  translated := common source translated
  missing := without source translated
  extra := without translated source

/-- Whether the language lacks no key. -/
def isComplete (coverage : Coverage) : Bool :=
  coverage.missing.isEmpty

/-- The extra key that a missing key most likely became. -/
def renamed? (coverage : Coverage) (key : String) : Option String :=
  (suggestions key coverage.extra).head?

end Coverage

end Phrasebook
