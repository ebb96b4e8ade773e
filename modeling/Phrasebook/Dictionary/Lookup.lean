import Phrasebook.Dictionary.Basic
import Phrasebook.Text.Segments

/-! Looking up a key: its segments, cut at the points, lead from the top level to a template.
-/

namespace Phrasebook

/-- The template that is reached from the entry by the segments. -/
def Entry.follow : List String → Entry → Option String
  | [], .text template => some template
  | segment :: rest, .nested entries =>
      match entries.lookup segment with
      | some entry => follow rest entry
      | none => none
  | _, _ => none

/-- The template at the key. The empty key has the empty template. -/
def Dictionary.lookup (d : Dictionary) (key : String) : Option String :=
  if key = "" then some "" else (Entry.nested d.entries).follow (Text.segments '.' key)

end Phrasebook
