/-!
# Binary floating-point formats and rounding into them

A format has a precision and a range of exponents.  Its *magnitudes* are the numbers `m · 2^q` with
`m` below `2^precision`; each has one *canonical* pair `(m, q)`, in which either `m` has its leading
bit or `q` is already the least exponent.  A magnitude carries the proof that its pair is canonical,
so two magnitudes are equal exactly if their pairs are.

`Format.round?` takes a nonnegative rational to the nearest magnitude, a half going to the even
neighbour.  There is one function for all formats: reading a decimal, narrowing a double and the
search for the shortest digits all round here.  Rounding never consults a machine number; it is
arithmetic on rationals throughout.  A result outside the range is recognised at the end, by the test
that the pair is canonical, which is the only way in which that test can fail.
-/

namespace FieldCode

/-- The integer nearest to a rational, a half going to the even neighbour. -/
def nearestEven (x : Rat) : Int :=
  let below := x.floor
  let rest := x - below
  if rest < 1 / 2 then below
  else if 1 / 2 < rest then below + 1
  else if below % 2 = 0 then below
  else below + 1

/-- The exponent `e` with `2^e ≤ x < 2^(e+1)`, for positive `x`. -/
def binade (x : Rat) : Int :=
  let e : Int := (Nat.log2 x.num.toNat : Int) - (Nat.log2 x.den : Int)
  if (2 : Rat) ^ e ≤ x then e else e - 1

/-- A binary floating-point format. -/
structure Format where
  /-- How many bits a significand has. -/
  precision : Nat
  /-- The least exponent, at which significands without a leading bit are allowed. -/
  minExponent : Int
  /-- The greatest exponent. -/
  maxExponent : Int
  deriving DecidableEq

namespace Format

/-- The 32-bit format. -/
def single : Format :=
  ⟨24, -149, 104⟩

/-- The 64-bit format. -/
def double : Format :=
  ⟨53, -1074, 971⟩

/-- The first natural number too large for a significand. -/
def bound (f : Format) : Nat :=
  Nat.pow 2 f.precision

/-- The pair is the one that stands for its number. -/
def Canonical (f : Format) (m : Nat) (q : Int) : Prop :=
  m < f.bound ∧ f.minExponent ≤ q ∧ q ≤ f.maxExponent ∧ (f.bound ≤ 2 * m ∨ q = f.minExponent)

instance (f : Format) (m : Nat) (q : Int) : Decidable (f.Canonical m q) :=
  inferInstanceAs (Decidable (m < f.bound ∧ f.minExponent ≤ q ∧ q ≤ f.maxExponent ∧
    (f.bound ≤ 2 * m ∨ q = f.minExponent)))

/-- A number of the format, without its sign. -/
structure Magnitude (f : Format) where
  /-- The significand. -/
  significand : Nat
  /-- The exponent of the last bit of the significand. -/
  exponent : Int
  /-- No other pair stands for the same number. -/
  canonical : f.Canonical significand exponent
  deriving DecidableEq

/-- The number that a magnitude stands for. -/
def Magnitude.value {f : Format} (m : f.Magnitude) : Rat :=
  (m.significand : Rat) * (2 : Rat) ^ m.exponent

/-- The exponent of the last bit kept when a number is rounded into the format. -/
def unitExponent (f : Format) (x : Rat) : Int :=
  if x = 0 then f.minExponent else max f.minExponent (binade x - (f.precision - 1 : Int))

/-- The magnitude with a given pair, a significand that has run over its last bit being carried into
the exponent; none if the exponent leaves the range. -/
def magnitude? (f : Format) (m : Nat) (q : Int) : Option f.Magnitude :=
  let pair := if m < f.bound then (m, q) else (m / 2, q + 1)
  if h : f.Canonical pair.1 pair.2 then some ⟨pair.1, pair.2, h⟩ else none

/-- The magnitude nearest to a nonnegative rational, a half going to the even significand; none if
the number is too large for the format. -/
def round? (f : Format) (x : Rat) : Option f.Magnitude :=
  let q := f.unitExponent x
  f.magnitude? (nearestEven (x / (2 : Rat) ^ q)).toNat q

/-- The magnitude of zero. -/
def zero (f : Format) (range : f.minExponent ≤ f.maxExponent) : f.Magnitude :=
  ⟨0, f.minExponent, Nat.pos_of_ne_zero (by simp [bound]), Int.le_refl _, range, Or.inr rfl⟩

end Format

end FieldCode
