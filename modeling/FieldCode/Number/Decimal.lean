import FieldCode.Number.Double

/-!
# Decimal numbers

A decimal is a natural number times a power of ten.  It is what a written number stands for before it
is rounded, and what the search for the shortest digits returns before they are laid out, so the two
directions meet in this type.  Trailing zeros of the significand carry no meaning; `trimmed` moves
them into the exponent.
-/

namespace FieldCode

/-- The number `significand · 10^exponent`. -/
structure Decimal where
  /-- The digits, read as a number. -/
  significand : Nat
  /-- The power of ten. -/
  exponent : Int
  deriving DecidableEq

/-- How many decimal digits a number is written with. -/
def decimalLength (n : Nat) : Nat :=
  (Nat.toDigits 10 n).length

/-- The place of the point before which `0.d₁d₂…` has to be shifted to give the number: the `k` with
`10^(k-1) ≤ x < 10^k`, for positive `x`.  The number is first scaled up past one by the length of its
denominator, so that its whole part shows all places. -/
def decade (x : Rat) : Int :=
  let shift := decimalLength x.den
  (decimalLength (x * (10 : Rat) ^ (shift : Int)).floor.toNat : Int) - (shift : Int)

namespace Decimal

/-- The number that a decimal stands for. -/
def value (d : Decimal) : Rat :=
  (d.significand : Rat) * (10 : Rat) ^ d.exponent

/-- The digits of the significand. -/
def digits (d : Decimal) : List Char :=
  Nat.toDigits 10 d.significand

/-- The place of the point relative to the first digit. -/
def scale (d : Decimal) : Int :=
  d.digits.length + d.exponent

/-- Moves the trailing zeros of a significand into the exponent. -/
def trim (significand : Nat) (exponent : Int) : Decimal :=
  if significand ≠ 0 ∧ significand % 10 = 0 then trim (significand / 10) (exponent + 1)
  else ⟨significand, exponent⟩
termination_by significand
decreasing_by omega

/-- The same number without trailing zeros. -/
def trimmed (d : Decimal) : Decimal :=
  trim d.significand d.exponent

/-- The double nearest to a decimal with a sign.  A decimal whose first digit stands far outside the
range of doubles is decided by that alone, so that no power of ten is computed for it. -/
def toDouble (negative : Bool) (d : Decimal) : Double :=
  if d.significand = 0 then .zero negative
  else if 400 < d.scale then .infinite negative
  else if d.scale < -400 then .zero negative
  else .ofRat negative d.value

end Decimal

end FieldCode
