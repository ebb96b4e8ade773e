/-! The exact value of a 64-bit floating-point number, as a sign, a natural significand and a
power of two.
-/

namespace Phrasebook.Decimal

/-- A finite floating-point number: plus or minus (significand * 2 ^ exponent). -/
structure Binary where
  negative : Bool
  significand : Nat
  exponent : Int
  deriving DecidableEq

/-- Reads the sign bit of x. -/
def isNegative (x : Float) : Bool :=
  x.toBits.toNat >>> 63 = 1

/-- The exact value of x, unless x is infinite or not a number. The exponent field zero stands for
the same power of two as the field one, without the leading bit.
-/
def Binary.ofFloat? (x : Float) : Option Binary :=
  let field : Nat := x.toBits.toNat >>> 52 % 2048
  let fraction : Nat := x.toBits.toNat % 1 <<< 52
  if field = 2047 then none
  else if field = 0 then some ⟨isNegative x, fraction, -1074⟩
  else some ⟨isNegative x, 1 <<< 52 + fraction, (field : Int) - 1075⟩

namespace Binary

/-- The magnitude of b times its denominator. -/
def numerator (b : Binary) : Nat :=
  b.significand <<< b.exponent.toNat

/-- The power of two under the magnitude of b. -/
def denominator (b : Binary) : Nat :=
  1 <<< (-b.exponent).toNat

/-- Whether b has no fraction. -/
def isWhole (b : Binary) : Bool :=
  b.numerator % b.denominator = 0

/-- The magnitude of b without its fraction. -/
def whole (b : Binary) : Nat :=
  b.numerator / b.denominator

end Binary

end Phrasebook.Decimal
