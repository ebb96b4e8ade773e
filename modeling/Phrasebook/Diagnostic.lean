import Phrasebook.Text.Segments

/-! Reports of the place in a dictionary text where reading it failed.
-/

namespace Phrasebook

open Phrasebook.Text

/-- A stretch of a text, in bytes, with what it shows. -/
structure Label where
  text : String
  offset : Nat
  length : Nat
  deriving DecidableEq

/-- A report with a headline, a code, advice, and labels in the text. -/
structure Diagnostic where
  headline : String
  code : String
  help : String
  labels : List Label
  deriving DecidableEq

namespace Diagnostic

/-- The byte of the content at the line and column, both counted from one, or the end of the content
if it is before that. Every line before counts with one byte for its end.
-/
def byteOffset (content : List Char) (line column : Nat) : Nat :=
  let before := ((lines content).take (line - 1)).map fun text => size text + 1
  min (before.foldr (· + ·) (column - 1)) (size content)

/-- Reports a failure at the line and column of the content. -/
def ofFailure (content : String) (line column : Nat) (message : String) : Diagnostic where
  headline := "invalid dictionary: " ++ message
  code := "keytext::syntax"
  help := "dictionaries are JSON objects of strings and nested objects"
  labels := [⟨"error here", byteOffset content.toList line column, 1⟩]

end Diagnostic

end Phrasebook
