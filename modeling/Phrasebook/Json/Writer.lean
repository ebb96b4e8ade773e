import Phrasebook.Decimal.Layout
import Phrasebook.Json.Quoted
import Phrasebook.Json.Value
import Phrasebook.Text.Integer

/-! Writing JSON values, without any space or with one member to a line.
-/

namespace Phrasebook

open Phrasebook.Text Phrasebook.Decimal

/-- Floating-point numbers are positional from (10 ^ -5) to (10 ^ 15), with at least one digit after
the point.
-/
def Number.layout : Layout where
  tie := .toEven
  positional := fun n => -5 ≤ n ∧ n ≤ 15
  wholeSuffix := ['.', '0']

/-- The text of n; infinities and values that are not numbers are written as null. -/
def Number.write : Number → List Char
  | .integer n => writeInteger n
  | .float x =>
      match Binary.ofFloat? x with
      | some b => layout.write b
      | none => ['n', 'u', 'l', 'l']

namespace Json

/-- The word for b. -/
def writeBool : Bool → List Char
  | true => ['t', 'r', 'u', 'e']
  | false => ['f', 'a', 'l', 's', 'e']

mutual

/-- The text of the value without any space. -/
def write : Json → List Char
  | .null => ['n', 'u', 'l', 'l']
  | .bool b => writeBool b
  | .number n => n.write
  | .string s => Quoted.write s
  | .array items => '[' :: writeItems items
  | .object members => '\x7b' :: writeMembers members

/-- The text of an array after its opening bracket. -/
def writeItems : List Json → List Char
  | [] => [']']
  | [item] => write item ++ [']']
  | item :: items => write item ++ ',' :: writeItems items

/-- The text of an object after its opening brace. -/
def writeMembers : List (String × Json) → List Char
  | [] => ['\x7d']
  | [(name, value)] => Quoted.write name ++ ':' :: (write value ++ ['\x7d'])
  | (name, value) :: members =>
      Quoted.write name ++ ':' :: (write value ++ ',' :: writeMembers members)

end

/-- Starts a line with two spaces for each level. -/
def startLine (depth : Nat) : List Char :=
  '\n' :: List.replicate (2 * depth) ' '

mutual

/-- The text of the value with each item and member on its own line, indented below the depth of the
value.
-/
def pretty (depth : Nat) : Json → List Char
  | .array (item :: items) =>
      '[' :: (prettyItems (depth + 1) (item :: items) ++ startLine depth ++ [']'])
  | .object (member :: members) =>
      '\x7b' :: (prettyMembers (depth + 1) (member :: members) ++ startLine depth ++ ['\x7d'])
  | .null => write .null
  | .bool b => write (.bool b)
  | .number n => write (.number n)
  | .string s => write (.string s)
  | .array [] => write (.array [])
  | .object [] => write (.object [])

/-- The lines of the items of an array. -/
def prettyItems (depth : Nat) : List Json → List Char
  | [] => []
  | [item] => startLine depth ++ pretty depth item
  | item :: items => startLine depth ++ pretty depth item ++ ',' :: prettyItems depth items

/-- The lines of the members of an object. -/
def prettyMembers (depth : Nat) : List (String × Json) → List Char
  | [] => []
  | [(name, value)] =>
      startLine depth ++ Quoted.write name ++ ':' :: ' ' :: pretty depth value
  | (name, value) :: members =>
      startLine depth ++ Quoted.write name ++ ':' :: ' ' :: pretty depth value
        ++ ',' :: prettyMembers depth members

end

/-- The text of the value without any space. -/
def compact (value : Json) : String :=
  String.ofList value.write

/-- The text of the value with one item or member to a line. -/
def indented (value : Json) : String :=
  String.ofList (value.pretty 0)

end Json

end Phrasebook
