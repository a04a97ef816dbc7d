import FieldCode.Number.Format

/-!
# Doubles and singles

A double is a value of the 64-bit format: a signed magnitude, an infinity, or the one value that is
not a number.  Zero has two signs.  A *single* is a double whose value the 32-bit format has too, so
narrowing is a map from doubles to doubles.
-/

namespace FieldCode

/-- A value of the 64-bit format. -/
inductive Double where
  | nan
  | infinite (negative : Bool)
  | finite (negative : Bool) (magnitude : Format.double.Magnitude)
  deriving DecidableEq

namespace Double

/-- Zero with a sign. -/
def zero (negative : Bool) : Double :=
  finite negative (Format.double.zero (by decide))

/-- The double nearest to a signed rational, given by its sign and its nonnegative size. -/
def ofRat (negative : Bool) (size : Rat) : Double :=
  match Format.double.round? size with
  | some m => finite negative m
  | none => infinite negative

/-- The double nearest to an integer; none if the integer is too large. -/
def ofInt? (n : Int) : Option Double :=
  (Format.double.round? (n.natAbs : Rat)).map (finite (decide (n < 0)))

/-- The value, if it is a number. -/
def value? : Double → Option Rat
  | finite false m => some m.value
  | finite true m => some (-m.value)
  | _ => none

/-- The integer part: what is left when the digits after the point are cut off. -/
def truncate (negative : Bool) (m : Format.double.Magnitude) : Int :=
  let size := m.value.floor
  if negative then -size else size

/-- The single nearest to a double. -/
def toSingle : Double → Double
  | nan => nan
  | infinite negative => infinite negative
  | finite negative m =>
    match Format.single.round? m.value with
    -- Every number of the 32-bit format is one of the 64-bit format, so this rounding is exact.
    | some s => ofRat negative s.value
    | none => infinite negative

/-! ## Bit patterns -/

/-- The double with a given bit pattern. -/
def ofBits (bits : Nat) : Double :=
  let fraction := bits % 4503599627370496
  let exponent := bits / 4503599627370496 % 2048
  let negative := decide (bits / 9223372036854775808 % 2 = 1)
  if exponent = 2047 then
    if fraction = 0 then infinite negative else nan
  else
    let pair : Nat × Int :=
      if exponent = 0 then (fraction, -1074) else (fraction + 4503599627370496, exponent - 1075)
    match Format.double.magnitude? pair.1 pair.2 with
    | some m => finite negative m
    | none => nan

/-- The bit pattern of a double, none for the value that is not a number, which has many. -/
def bits? : Double → Option Nat
  | nan => none
  | infinite negative => some (signBit negative + 2047 * 4503599627370496)
  | finite negative m =>
    if m.significand < 4503599627370496 then some (signBit negative + m.significand)
    else some (signBit negative + (m.exponent + 1075).toNat * 4503599627370496 +
      (m.significand - 4503599627370496))
where
  /-- The place of the sign. -/
  signBit (negative : Bool) : Nat :=
    if negative then 9223372036854775808 else 0

end Double

end FieldCode
