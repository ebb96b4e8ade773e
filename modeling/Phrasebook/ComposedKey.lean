import Phrasebook.Bindings
import Phrasebook.Text.Blank
import Phrasebook.Text.Segments

/-! Composed keys, which carry a count or bindings behind the key proper: a base, a count in
square brackets, and pairs in braces. Either clause may be absent.
-/

namespace Phrasebook

open Phrasebook.Text

/-- A key that has been taken apart. -/
structure ComposedKey where
  base : String
  count : Option Int64
  bindings : Option Bindings

namespace ComposedKey

/-- The clauses behind a base: the count, and the text between the braces. -/
structure Clauses where
  count : Option Int64
  body : Option (List Char)
  deriving DecidableEq

/-- Whether c is the first character of a clause. -/
def opensClause (c : Char) : Bool :=
  c = '[' || c = '\x7b'

/-- Whether a character of the key could open a clause. -/
def isComposed (key : String) : Bool :=
  key.toList.any opensClause

/-- The count in square brackets that the text starts with, and the text after it. -/
def countClause? : List Char → Option (Int64 × List Char)
  | '[' :: rest =>
      match readDigits (rest.takeWhile isDigit), rest.dropWhile isDigit with
      | some n, ']' :: rest => some (n, rest)
      | _, _ => none
  | _ => none

/-- What stands between the opening brace at the start of the text and the closing brace at its end,
if it is not empty.
-/
def bodyClause? : List Char → Option (List Char)
  | '\x7b' :: rest =>
      if rest.getLast? = some '\x7d' ∧ rest.dropLast ≠ [] then some rest.dropLast else none
  | _ => none

/-- Completes the clauses with the body that the whole text is, if it is not empty. -/
def bodyAfter (count : Option Int64) (text : List Char) : Option Clauses :=
  if text = [] then some ⟨count, none⟩
  else (bodyClause? text).map fun body => ⟨count, some body⟩

/-- The clauses that the whole text consists of. -/
def clauses? (text : List Char) : Option Clauses :=
  match countClause? text with
  | some (n, rest) => bodyAfter (some n) rest
  | none => bodyAfter none text

/-- The shortest base after which the rest of the text consists of clauses. Only the end of the text
and the characters that open a clause can start them.
-/
def split : List Char → List Char × Clauses
  | [] => ([], ⟨none, none⟩)
  | c :: rest =>
      match if opensClause c then clauses? (c :: rest) else none with
      | some clauses => ([], clauses)
      | none => (c :: (split rest).1, (split rest).2)

/-- The name and the value around the first colon, both trimmed, if the name is not empty. -/
def pair? (text : List Char) : Option (String × Value) :=
  match cutOnce ':' text with
  | some (name, value) =>
      if trim name = [] then none
      else some (String.ofList (trim name), .text (String.ofList (trim value)))
  | none => none

/-- The pairs between the commas of a body. -/
def pairs (body : List Char) : Bindings :=
  .ofList ((body.splitOn ',').filterMap pair?)

/-- The key of a base and its clauses. -/
def ofParts (base : List Char) (clauses : Clauses) : ComposedKey :=
  ⟨String.ofList base, clauses.count, clauses.body.map pairs⟩

/-- Takes a key apart. The base is not empty, unless the key is; it is the whole key if no rest of
it consists of clauses.
-/
def parse (key : String) : ComposedKey :=
  match key.toList with
  | [] => ofParts [] ⟨none, none⟩
  | c :: rest => ofParts (c :: (split rest).1) (split rest).2

end ComposedKey

end Phrasebook
