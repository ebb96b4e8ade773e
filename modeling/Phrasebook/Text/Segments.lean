/-! Cutting a text at a separating character, at its first occurrence or at every one, and into
lines; looking for a part of a text.
-/

namespace Phrasebook.Text

/-- The parts between the separators, one more than there are separators; the empty text has one
empty part.
-/
def segments (separator : Char) (text : String) : List String :=
  (text.toList.splitOn separator).map String.ofList

/-- The parts before and after the first separator, if there is one. -/
def cutOnce (separator : Char) : List Char → Option (List Char × List Char)
  | [] => none
  | c :: rest =>
      if c = separator then some ([], rest)
      else (cutOnce separator rest).map fun (before, after) => (c :: before, after)

/-- Whether the part occurs in the text. -/
def occurs (part : List Char) : List Char → Bool
  | [] => part.isEmpty
  | c :: rest => part.isPrefixOf (c :: rest) || occurs part rest

/-- Counts the bytes of the text in UTF-8. -/
def size (text : List Char) : Nat :=
  text.foldr (fun c bytes => c.utf8Size + bytes) 0

/-- A line without the carriage return that may stand before its newline. -/
def stripReturn (line : List Char) : List Char :=
  if line.getLast? = some '\r' then line.dropLast else line

/-- The lines of a text cut at its newlines: every part but the last was ended by a newline, and an
empty last part is no line.
-/
def linesOf : List (List Char) → List (List Char)
  | [] => []
  | [last] => if last = [] then [] else [last]
  | part :: rest => stripReturn part :: linesOf rest

/-- The lines of the text without their line ends, a newline or a carriage return and a newline. A
text that ends in a newline has no empty last line.
-/
def lines (text : List Char) : List (List Char) :=
  linesOf (text.splitOn '\n')

end Phrasebook.Text
