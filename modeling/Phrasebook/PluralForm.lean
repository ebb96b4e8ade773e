import Phrasebook.Text.Blank
import Phrasebook.Text.Integer
import Phrasebook.Text.Segments

/-! The forms of a plural template. A form may start with a tag that tells for which counts it is
meant: one number in braces, or a range in square brackets.
-/

namespace Phrasebook

open Phrasebook.Text

/-- The counts that a form is meant for. A range without an end has no upper bound. -/
inductive Tag where
  | exact (n : Int64)
  | range (first : Int64) (last : Option Int64)
  deriving DecidableEq

namespace Tag

/-- Whether the form is meant for the count. -/
def admits : Tag → Int64 → Bool
  | .exact n, count => count == n
  | .range first none, count => first ≤ count
  | .range first (some last), count => first ≤ count && count ≤ last

/-- Whether the tag is one number. -/
def isExact : Tag → Bool
  | .exact _ => true
  | .range _ _ => false

end Tag

/-- A form: its tag, if it has one, and its text without the tag. -/
structure PluralForm where
  tag : Option Tag
  text : String
  deriving DecidableEq

namespace PluralForm

/-- The number that the text starts with, and the text after it. -/
def number? (text : List Char) : Option (Int64 × List Char) :=
  (readDigits (text.takeWhile isDigit)).map fun n => (n, text.dropWhile isDigit)

/-- The text without its first character if that is white space. -/
def dropOneBlank : List Char → List Char
  | [] => []
  | c :: rest => if isBlank c then rest else c :: rest

/-- The number in braces that the text starts with, and the text after it without one character of
white space. White space may stand before the brace.
-/
def exactTag? (text : List Char) : Option (Tag × List Char) :=
  match trimStart text with
  | '\x7b' :: rest =>
      match number? rest with
      | some (n, '\x7d' :: rest) => some (.exact n, dropOneBlank rest)
      | _ => none
  | _ => none

/-- The upper bound that the text starts with, a number or an asterisk for none, and the text after
it.
-/
def rangeEnd? : List Char → Option (Option Int64 × List Char)
  | '*' :: rest => some (none, rest)
  | text => (number? text).map fun (n, rest) => (some n, rest)

/-- The text after a hyphen or comma and the white space around it. -/
def separated? (text : List Char) : Option (List Char) :=
  match trimStart text with
  | '-' :: rest => some (trimStart rest)
  | ',' :: rest => some (trimStart rest)
  | _ => none

/-- The text after a closing bracket and the white space around it. -/
def closed? (text : List Char) : Option (List Char) :=
  match trimStart text with
  | ']' :: rest => some (trimStart rest)
  | _ => none

/-- The range in square brackets that the text starts with, and the text after it. White space may
stand around every part.
-/
def rangeTag? (text : List Char) : Option (Tag × List Char) :=
  match trimStart text with
  | '[' :: rest => do
      let (first, rest) ← number? (trimStart rest)
      let rest ← separated? rest
      let (last, rest) ← rangeEnd? rest
      let rest ← closed? rest
      return (.range first last, rest)
  | _ => none

/-- The tag that the text starts with, and the text after it. -/
def tag? (text : List Char) : Option (Tag × List Char) :=
  (exactTag? text).orElse fun _ => rangeTag? text

/-- Takes the tag off a form. A form without a tag is kept as it is. -/
def parse (form : String) : PluralForm :=
  match tag? form.toList with
  | some (tag, text) => ⟨some tag, String.ofList text⟩
  | none => ⟨none, form⟩

/-- Whether the form has a tag that admits the count. -/
def admits (form : PluralForm) (count : Int64) : Bool :=
  form.tag.any (·.admits count)

/-- The text of the first form whose tag admits the count, among the forms whose tag is one number,
or among those whose tag is a range.
-/
def tagged (exact : Bool) (count : Int64) (forms : List PluralForm) : Option String :=
  forms.findSome? fun form =>
    match form.tag with
    | some tag => if tag.isExact = exact ∧ tag.admits count then some form.text else none
    | none => none

/-- The only text, or the first one for a count of one and the second for any other. -/
def positional (count : Int64) : List String → Option String
  | [] => none
  | [only] => some only
  | first :: second :: _ => some (if count = 1 then first else second)

/-- The texts of the forms without a tag. -/
def untagged (forms : List PluralForm) : List String :=
  (forms.filter (·.tag.isNone)).map (·.text)

/-- The texts for the choice by position: of the untagged forms, or of all forms with their tags if
there is no untagged one.
-/
def candidates (forms : List String) : List String :=
  let plain := untagged (forms.map parse)
  if plain = [] then forms else plain

/-- The text of the form for a count: the one with its number, else one whose range contains it,
else one chosen by position.
-/
def select (count : Int64) (forms : List String) : Option String :=
  let parsed := forms.map parse
  match tagged true count parsed with
  | some text => some text
  | none =>
      match tagged false count parsed with
      | some text => some text
      | none => positional count (candidates forms)

/-- The forms of a template, between its vertical bars. -/
def formsOf (template : String) : List String :=
  segments '|' template

end PluralForm

end Phrasebook
