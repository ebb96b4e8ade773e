import Phrasebook.Decimal.Binary

/-! The fewest decimal digits that identify a floating-point number: a decimal identifies the
number to which it is nearest. Everything is decided by comparing natural numbers.
-/

namespace Phrasebook.Decimal

/-- A positive decimal: (coefficient * 10 ^ exponent). -/
structure Scaled where
  coefficient : Nat
  exponent : Int
  deriving DecidableEq

/-- Which of two equally near neighbours is taken. -/
inductive Tie
  | toEven
  | upward
  deriving DecidableEq

/-- Compares the decimal d with (n * 2 ^ q). -/
def compareScaled (d : Scaled) (n : Nat) (q : Int) : Ordering :=
  compare ((d.coefficient * Nat.pow 10 d.exponent.toNat) <<< (-q).toNat)
    ((n * Nat.pow 10 (-d.exponent).toNat) <<< q.toNat)

/-- Whether the decimal d is nearer to the magnitude of b than to any other floating-point number.
The reals with this property reach half way to either neighbour, and both ends belong to them
exactly if the significand is even. Below a power of two the neighbours stand twice as close.
-/
def identifies (b : Binary) (d : Scaled) : Bool :=
  let below := if b.significand = 1 <<< 52 ∧ b.exponent > -1074 then 1 else 2
  let low := compareScaled d (4 * b.significand - below) (b.exponent - 2)
  let high := compareScaled d (4 * b.significand + 2) (b.exponent - 2)
  if b.significand % 2 = 0 then low != .lt && high != .gt else low == .gt && high == .lt

/-- The least k for which the magnitude of b, which is not zero, is below 10 ^ k. -/
def scale (b : Binary) : Int :=
  if b.denominator ≤ b.numerator then
    (Nat.toDigits 10 (b.numerator / b.denominator)).length
  else
    let zeros := (Nat.toDigits 10 (b.denominator / b.numerator)).length - 1
    if b.numerator * Nat.pow 10 zeros < b.denominator then -(zeros : Int) else 1 - (zeros : Int)

/-- The greatest multiple of (10 ^ exponent) up to the magnitude of b. -/
def lowerNeighbour (b : Binary) (exponent : Int) : Scaled :=
  let coefficient :=
    b.numerator * Nat.pow 10 (-exponent).toNat / (b.denominator * Nat.pow 10 exponent.toNat)
  ⟨coefficient, exponent⟩

/-- The nearer to b of the decimal d below it and the next one above. -/
def nearer (tie : Tie) (b : Binary) (d : Scaled) : Scaled :=
  let above : Scaled := ⟨d.coefficient + 1, d.exponent⟩
  match compareScaled ⟨2 * d.coefficient + 1, d.exponent⟩ (2 * b.significand) b.exponent, tie with
  | .gt, _ => d
  | .lt, _ => above
  | .eq, .upward => above
  | .eq, .toEven => if d.coefficient % 2 = 0 then d else above

/-- The multiple of (10 ^ exponent) that identifies b, if there is one; of two it is the nearer. -/
def onGrid (tie : Tie) (b : Binary) (exponent : Int) : Option Scaled :=
  let below := lowerNeighbour b exponent
  let above : Scaled := ⟨below.coefficient + 1, exponent⟩
  match identifies b below, identifies b above with
  | true, true => some (nearer tie b below)
  | true, false => some below
  | false, true => some above
  | false, false => none

/-- Moves up to fuel trailing zeros of the coefficient into the exponent. -/
def stripZeros : Nat → Scaled → Scaled
  | 0, d => d
  | fuel + 1, d =>
      if d.coefficient % 10 = 0 ∧ d.coefficient ≠ 0 then
        stripZeros fuel ⟨d.coefficient / 10, d.exponent + 1⟩
      else d

/-- Writes the magnitude of b with all its digits. -/
def exact (b : Binary) : Scaled :=
  ⟨b.numerator * Nat.pow 5 (-b.exponent).toNat, -((-b.exponent).toNat : Int)⟩

/-- The decimal with the fewest digits that identifies the magnitude of b, and of those the nearest.
Seventeen digits are always enough. Zero has the digit zero.
-/
def shortest (tie : Tie) (b : Binary) : Scaled :=
  if b.significand = 0 then ⟨0, 0⟩
  else
    let found := (List.range 17).findSome? fun (count : Nat) =>
      onGrid tie b (scale b - (count + 1 : Nat))
    let chosen := found.getD (exact b)
    stripZeros (Nat.toDigits 10 chosen.coefficient).length chosen

end Phrasebook.Decimal
