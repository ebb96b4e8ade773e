import Phrasebook.Dictionary.Basic
import Phrasebook.Json.Writer
import Phrasebook.Text.Literal

/-! Dictionaries written out for inspection, on one line, with the kind of every entry.
-/

namespace Phrasebook

open Phrasebook.Text

/-- Puts a text in parentheses behind a tag. -/
def Inspection.tagged (tag : String) (content : List Char) : List Char :=
  tag.toList ++ '(' :: (content ++ [')'])

open Inspection

mutual

/-- Shows a value. -/
def Json.inspect : Json → List Char
  | .null => "Null".toList
  | .bool b => tagged "Bool" (Json.writeBool b)
  | .number n => tagged "Number" n.write
  | .string s => tagged "String" (Literal.write s)
  | .array items => "Array [".toList ++ inspectItems items
  | .object members => "Object \x7b".toList ++ inspectMembers members

/-- Shows the items of an array and its closing bracket. -/
def Json.inspectItems : List Json → List Char
  | [] => [']']
  | [item] => inspect item ++ [']']
  | item :: items => inspect item ++ ',' :: ' ' :: inspectItems items

/-- Shows the members of an object and its closing brace. -/
def Json.inspectMembers : List (String × Json) → List Char
  | [] => ['\x7d']
  | [(name, value)] => Literal.write name ++ ':' :: ' ' :: (inspect value ++ ['\x7d'])
  | (name, value) :: members =>
      Literal.write name ++ ':' :: ' ' :: (inspect value ++ ',' :: ' ' :: inspectMembers members)

end

mutual

/-- Shows an entry. -/
def Entry.inspect : Entry → List Char
  | .text template => tagged "Text" (Literal.write template)
  | .nested entries =>
      "Nested(Dictionary \x7b entries: \x7b".toList ++ inspectEntries entries ++ " \x7d)".toList
  | .other value => tagged "Other" value.inspect

/-- Shows the entries of a level and its closing brace. -/
def Entry.inspectEntries : List (String × Entry) → List Char
  | [] => ['\x7d']
  | [(segment, entry)] => Literal.write segment ++ ':' :: ' ' :: (inspect entry ++ ['\x7d'])
  | (segment, entry) :: entries =>
      Literal.write segment ++ ':' :: ' ' :: (inspect entry ++ ',' :: ' ' :: inspectEntries entries)

end

/-- Shows a dictionary. -/
def Dictionary.inspect (d : Dictionary) : List Char :=
  "Dictionary \x7b entries: \x7b".toList ++ Entry.inspectEntries d.entries ++ " \x7d".toList

end Phrasebook
