import Phrasebook.Decimal.Layout
import Phrasebook.Json.Value
import Phrasebook.Text.Integer

/-! The values that replace placeholders: integers of 64 bits, floating-point numbers and texts.
-/

namespace Phrasebook

open Phrasebook.Text Phrasebook.Decimal

namespace Json

/-- The integer of 64 bits that the value is. -/
def int64? : Json → Option Int64
  | .number (.integer n) => Text.int64? n
  | _ => none

/-- The floating-point number that the value is or, if it is an integer, the nearest one. -/
def float? : Json → Option Float
  | .number n => some n.toFloat
  | _ => none

/-- The text that the value is. -/
def string? : Json → Option String
  | .string s => some s
  | _ => none

end Json

/-- A value for a placeholder. -/
inductive Value where
  | number (n : Int64)
  | float (x : Float)
  | text (s : String)

namespace Value

/-- The number n, or the greatest one of 64 bits if n is beyond it. -/
def ofNat (n : Nat) : Value :=
  .number (saturate n)

/-- Inserted floating-point numbers never have an exponent. -/
def layout : Layout where
  tie := .upward
  positional := fun _ => true
  wholeSuffix := []

/-- Writes a number without fraction as an integer with all its digits, and any other number with
the fewest digits that identify it.
-/
def displayFloat (x : Float) : List Char :=
  match Binary.ofFloat? x with
  | some b =>
      if b.isWhole then
        let digits := Nat.toDigits 10 b.whole
        if b.negative then '-' :: digits else digits
      else layout.write b
  | none =>
      if x.isNaN then ['N', 'a', 'N']
      else if isNegative x then ['-', 'i', 'n', 'f']
      else ['i', 'n', 'f']

/-- The text that the value puts in place of a placeholder. -/
def display : Value → String
  | .number n => String.ofList (writeInteger n.toInt)
  | .float x => String.ofList (displayFloat x)
  | .text s => s

/-- The integer that the value is. -/
def number? : Value → Option Int64
  | .number n => some n
  | .float _ => none
  | .text _ => none

/-- The value as a floating-point number, the nearest one to an integer. -/
def float? : Value → Option Float
  | .number n => some (Float.ofInt n.toInt)
  | .float x => some x
  | .text _ => none

/-- The text that the value is. -/
def text? : Value → Option String
  | .number _ => none
  | .float _ => none
  | .text s => some s

/-- Compares values of one kind; a number is never the same as a floating-point number. -/
def same : Value → Value → Bool
  | .number m, .number n => m == n
  | .float x, .float y => x == y
  | .text s, .text t => s == t
  | _, _ => false

/-- The number or string that stands for the value. There is none for infinities and values that are
not numbers.
-/
def toJson : Value → Json
  | .number n => .number (.integer n.toInt)
  | .float x => if x.isFinite then .number (.float x) else .null
  | .text s => .string s

/-- Keeps integers of 64 bits as they are; all others become floating-point numbers. -/
def ofNumber (n : Number) : Value :=
  match n with
  | .integer i =>
      match int64? i with
      | some n => .number n
      | none => .float (Number.integer i).toFloat
  | .float x => .float x

/-- Reads a JSON value as the first kind of value that it can be: an integer of 64 bits, a
floating-point number, or a text.
-/
def ofJson? (value : Json) : Option Value :=
  (value.int64?.map .number).or ((value.float?.map .float).or (value.string?.map .text))

end Value

end Phrasebook
