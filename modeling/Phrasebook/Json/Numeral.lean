import Phrasebook.Json.Fault
import Phrasebook.Json.Value
import Phrasebook.Text.Integer

/-! Reading the numbers of JSON texts. A number without fraction and exponent is an integer if it
fits in 64 bits. Any other number is read as a significand below 2 ^ 64, whose further digits only
move the decimal point, and scaled by a power of ten in floating-point arithmetic.
-/

namespace Phrasebook.Json.Numeral

open Phrasebook.Text

/-- Whether the text goes on with a digit. -/
def startsWithDigit : List Char → Bool
  | [] => false
  | c :: _ => isDigit c

/-- Appends digits of the text to the value while it stays below the limit, and answers with the
value and the text from the first character not used.
-/
def gather (limit value : Nat) : List Char → Nat × List Char
  | [] => (value, [])
  | c :: rest =>
      let next := 10 * value + digitValue c
      if isDigit c ∧ next < limit then gather limit next rest else (value, c :: rest)

/-- The floating-point number nearest to (10 ^ n). -/
def powerOfTen (n : Nat) : Float :=
  Float.ofScientific 1 false n

/-- Divides x by (10 ^ n), in steps of at most (10 ^ 308) and until zero is reached. -/
def scaleDown (x : Float) (n : Nat) : Float :=
  if n ≤ 308 then x / powerOfTen n
  else if x == 0 then x
  else scaleDown (x / powerOfTen 308) (n - 308)
termination_by n

/-- The product of x and (10 ^ n), unless it is too large. -/
def scaleUp (x : Float) (n : Nat) : Option Float :=
  if n ≤ 308 then
    let product := x * powerOfTen n
    if product.isInf then none else some product
  else if x == 0 then some x
  else none

/-- The floating-point number that the significand and the exponent stand for, if it is not too
large, read up to the rest.
-/
def scaled (negative : Bool) (significand : Nat) (exponent : Int) (rest : List Char)
    : Scan Number :=
  let x := Float.ofNat significand
  let magnitude :=
    if exponent < 0 then some (scaleDown x exponent.natAbs) else scaleUp x exponent.natAbs
  match magnitude with
  | some x => .ok (.float (if negative then -x else x), rest)
  | none => .error (.before .numberOutOfRange rest)

/-- Reads the exponent that the text after the letter starts with, and adds it to the exponent so
far. An exponent of 2 ^ 31 or more is out of range, or makes the number zero.
-/
def exponentPart (negative : Bool) (significand : Nat) (exponent : Int) (text : List Char)
    : Scan Number :=
  let (down, digits) := match text with
    | '+' :: rest => (false, rest)
    | '-' :: rest => (true, rest)
    | rest => (false, rest)
  if startsWithDigit digits then
    let (value, rest) := gather (1 <<< 31) 0 digits
    if startsWithDigit rest then
      if significand ≠ 0 ∧ !down then .error (.upon .numberOutOfRange rest)
      else .ok (.float (if negative then -0.0 else 0.0), rest.dropWhile isDigit)
    else scaled negative significand (if down then exponent - value else exponent + value) rest
  else .error (.instead .endInValue .invalidNumber digits)

/-- Reads the digits that the text after the point starts with, of which those beyond the limit of
the significand are dropped, and what follows.
-/
def fractionPart (negative : Bool) (significand : Nat) (exponent : Int) (text : List Char)
    : Scan Number :=
  if startsWithDigit text then
    let (significand, rest) := gather UInt64.size significand text
    let exponent := exponent - (text.length - rest.length : Nat)
    match rest.dropWhile isDigit with
    | 'e' :: rest => exponentPart negative significand exponent rest
    | 'E' :: rest => exponentPart negative significand exponent rest
    | rest => scaled negative significand exponent rest
  else .error (.instead .endInValue .invalidNumber text)

/-- An integer if it fits in 64 bits, signed if negative. Zero with a sign is a floating-point
number.
-/
def integerValue (negative : Bool) (magnitude : Nat) : Number :=
  if !negative then .integer magnitude
  else if magnitude ≠ 0 ∧ Int64.minValue.toInt ≤ -magnitude then .integer (-magnitude)
  else .float (-Float.ofNat magnitude)

/-- Reads what follows the integral digits, of which the last `dropped` are not part of the
significand.
-/
def afterDigits (negative : Bool) (significand dropped : Nat) : List Char → Scan Number
  | '.' :: rest => fractionPart negative significand dropped rest
  | 'e' :: rest => exponentPart negative significand dropped rest
  | 'E' :: rest => exponentPart negative significand dropped rest
  | rest =>
      if dropped = 0 then .ok (integerValue negative significand, rest)
      else scaled negative significand dropped rest

/-- Reads a number after its sign. Only zero itself starts with a zero. -/
def magnitude (negative : Bool) (text : List Char) : Scan Number :=
  match text with
  | '0' :: rest =>
      if startsWithDigit rest then .error (.upon .invalidNumber rest)
      else afterDigits negative 0 0 rest
  | digits =>
      if startsWithDigit digits then
        let (significand, rest) := gather UInt64.size 0 digits
        afterDigits negative significand (rest.takeWhile isDigit).length (rest.dropWhile isDigit)
      else .error (.instead .endInValue .invalidNumber digits)

/-- Reads a number. -/
def read : List Char → Scan Number
  | '-' :: rest => magnitude true rest
  | text => magnitude false text

end Phrasebook.Json.Numeral
