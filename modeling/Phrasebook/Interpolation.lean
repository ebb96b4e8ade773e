import Phrasebook.Bindings

/-! Filling the placeholders of a template. A placeholder is a colon and a name; the names apply
one after another, and text that was filled in is never searched again.
-/

namespace Phrasebook

/-- A piece of a text in the making: text of the template, or text put in place of a placeholder. -/
inductive Fragment where
  | template (text : List Char)
  | inserted (text : String)

namespace Interpolation

/-- Cuts the text at the placeholders of a name, from left to right, after passing over its first
`skip` characters, which belong to the placeholder before.
-/
def cutFrom (name : List Char) : Nat → List Char → List (List Char)
  | _, [] => [[]]
  | skip + 1, _ :: rest => cutFrom name skip rest
  | 0, c :: rest =>
      if c = ':' ∧ name.isPrefixOf rest then [] :: cutFrom name name.length rest
      else (cutFrom name 0 rest).modifyHead (c :: ·)

/-- The parts of the text around the placeholders of a name, one more than there are placeholders.
-/
def cut (name text : List Char) : List (List Char) :=
  cutFrom name 0 text

/-- Puts the inserted text between the parts. -/
def weave (inserted : String) : List (List Char) → List Fragment
  | [] => []
  | [part] => [.template part]
  | part :: parts => .template part :: .inserted inserted :: weave inserted parts

/-- Replaces the placeholders of a name in a piece of the template. -/
def replaceIn (name inserted : String) : Fragment → List Fragment
  | .template text => weave inserted (cut name.toList text)
  | .inserted text => [.inserted text]

/-- Replaces the placeholders of one name. The empty name has none. -/
def apply (fragments : List Fragment) (binding : String × Value) : List Fragment :=
  if binding.1 = "" then fragments
  else fragments.flatMap (replaceIn binding.1 binding.2.display)

/-- Replaces the placeholders of the names in order. -/
def applyAll (entries : List (String × Value)) (fragments : List Fragment) : List Fragment :=
  entries.foldl apply fragments

/-- The characters of a piece. -/
def chars : Fragment → List Char
  | .template text => text
  | .inserted text => text.toList

/-- The template with the placeholders of the names replaced. -/
def fill (entries : List (String × Value)) (template : List Char) : List Char :=
  (applyAll entries [.template template]).flatMap chars

end Interpolation

/-- Fills the placeholders of the template that are bound. -/
def interpolate (template : String) : Option Bindings → String
  | none => template
  | some bindings => String.ofList (Interpolation.fill bindings.entries template.toList)

end Phrasebook
