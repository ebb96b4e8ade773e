/-! Decimal integers in texts: runs of digits, and signed integers of 64 bits.
-/

namespace Phrasebook.Text

/-- Whether c is one of the ten ASCII digits. -/
def isDigit (c : Char) : Bool :=
  '0' ≤ c && c ≤ '9'

/-- The value of the digit c. -/
def digitValue (c : Char) : Nat :=
  c.toNat - '0'.toNat

/-- The number that the digits write, most significant first. -/
def digitsValue (digits : List Char) : Nat :=
  digits.foldl (fun value c => 10 * value + digitValue c) 0

/-- The integer of 64 bits with the value n, if there is one. -/
def int64? (n : Int) : Option Int64 :=
  if Int64.minValue.toInt ≤ n ∧ n ≤ Int64.maxValue.toInt then some (Int64.ofInt n) else none

/-- The integer of 64 bits nearest to the natural number n. -/
def saturate (n : Nat) : Int64 :=
  if n ≤ Int64.maxValue.toInt then Int64.ofNat n else Int64.maxValue

/-- The number written by a non-empty run of digits that fits in 64 bits with a sign. -/
def readDigits (digits : List Char) : Option Int64 :=
  if digits ≠ [] ∧ digits.all isDigit then int64? (digitsValue digits) else none

/-- The number written by the whole text: an optional sign and a non-empty run of digits. -/
def readInteger : List Char → Option Int64
  | '-' :: digits =>
      if digits ≠ [] ∧ digits.all isDigit then int64? (-digitsValue digits) else none
  | '+' :: digits => readDigits digits
  | digits => readDigits digits

/-- The decimal text of n, with a sign if n is negative and no leading zero. -/
def writeInteger (n : Int) : List Char :=
  match n with
  | .ofNat m => Nat.toDigits 10 m
  | .negSucc m => '-' :: Nat.toDigits 10 (m + 1)

end Phrasebook.Text
