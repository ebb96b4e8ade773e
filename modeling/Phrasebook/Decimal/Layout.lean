import Phrasebook.Decimal.Shortest

/-! Writing a decimal: where the point stands, and when an exponent is used.
-/

namespace Phrasebook.Decimal

/-- The decisions of a format. A decimal whose leading digit stands for (10 ^ n) is positional if
(positional n) holds and has an exponent otherwise; wholeSuffix ends a positional text without a
fraction.
-/
structure Layout where
  tie : Tie
  positional : Int → Bool
  wholeSuffix : List Char

/-- A run of n zeros. -/
def zeros (n : Nat) : List Char :=
  List.replicate n '0'

/-- Writes the digits with the decimal point after the first `point` of them, filling up with zeros
on either side.
-/
def writePositional (wholeSuffix digits : List Char) (point : Int) : List Char :=
  if point ≤ 0 then '0' :: '.' :: (zeros (-point).toNat ++ digits)
  else if point.toNat < digits.length then
    digits.take point.toNat ++ '.' :: digits.drop point.toNat
  else digits ++ zeros (point.toNat - digits.length) ++ wholeSuffix

/-- Writes one digit before the point, if more follow, and a signed exponent. -/
def writeScientific (digits : List Char) (exponent : Int) : List Char :=
  let fraction := if digits.length ≤ 1 then [] else '.' :: digits.drop 1
  let sign := if exponent < 0 then '-' else '+'
  digits.take 1 ++ fraction ++ 'e' :: sign :: Nat.toDigits 10 exponent.natAbs

/-- The text of b with the fewest digits that identify it. -/
def Layout.write (layout : Layout) (b : Binary) : List Char :=
  let d := shortest layout.tie b
  let digits := Nat.toDigits 10 d.coefficient
  let point := d.exponent + digits.length
  let magnitude :=
    if layout.positional (point - 1) then writePositional layout.wholeSuffix digits point
    else writeScientific digits (point - 1)
  if b.negative then '-' :: magnitude else magnitude

end Phrasebook.Decimal
