import Phrasebook.Dictionary.Basic
import Phrasebook.Json.Reader
import Phrasebook.Json.Writer

/-! Dictionaries as JSON objects: strings are templates, objects are nested levels, and every
other value is kept as it is.
-/

namespace Phrasebook

namespace Entry

mutual

/-- The entry that a value stands for. -/
def ofJson : Json → Entry
  | .string s => .text s
  | .object members => .nested (ofMembers members)
  | .null => .other .null
  | .bool b => .other (.bool b)
  | .number n => .other (.number n)
  | .array items => .other (.array items)

/-- The entries that the members of an object stand for. -/
def ofMembers : List (String × Json) → List (String × Entry)
  | [] => []
  | (segment, value) :: members => (segment, ofJson value) :: ofMembers members

end

mutual

/-- The value that stands for an entry. -/
def toJson : Entry → Json
  | .text template => .string template
  | .nested entries => .object (toMembers entries)
  | .other value => value

/-- The members that stand for the entries of a level. -/
def toMembers : List (String × Entry) → List (String × Json)
  | [] => []
  | (segment, entry) :: entries => (segment, toJson entry) :: toMembers entries

end

end Entry

namespace Dictionary

/-- The dictionary that the members of an object stand for. -/
def ofMembers (members : List (String × Json)) : Dictionary :=
  ⟨Entry.ofMembers members⟩

/-- The object that stands for d. -/
def toJson (d : Dictionary) : Json :=
  .object (Entry.toMembers d.entries)

/-- Reads a dictionary from a text, which must be a JSON object. -/
def parse (text : String) : Except Json.SyntaxError Dictionary :=
  (Json.parseObject (fun _ => true) text).map ofMembers

/-- The JSON text of d without any space. -/
def write (d : Dictionary) : String :=
  d.toJson.compact

end Dictionary

end Phrasebook
