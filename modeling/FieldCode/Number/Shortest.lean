import FieldCode.Number.Decimal

/-!
# The shortest digits that read back

The decimals with `n` digits of the size of a number form a grid, and the number lies between two
neighbours on it.  For a double the search goes through the digit counts from one upwards and takes
the first count at which a neighbour reads back as the double; of two that do it takes the nearer,
and the even one if both are equally near.

For a single the search asks a different question: it tries one decimal for each count, the nearest
to the number with a half going to the even digit, and asks whether that decimal, read as a double
and narrowed, is the single.  A decimal read in two steps is rounded twice, and this is the question
that a reader in two steps answers.

Seventeen digits suffice for a double and nine for a single.  The searches are bounded by that, and
fall back on the exact expansion and on the digits of the double, so that both are total without the
proof.
-/

namespace FieldCode

namespace Decimal

/-- The greatest decimal with `n` digits that is not above a positive number. -/
def below (x : Rat) (n : Nat) : Decimal :=
  let exponent := decade x - (n : Int)
  ⟨(x / (10 : Rat) ^ exponent).floor.toNat, exponent⟩

/-- The next decimal on the same grid. -/
def next (d : Decimal) : Decimal :=
  ⟨d.significand + 1, d.exponent⟩

/-- The decimal with `n` digits that is nearest to a positive number, a half going to the even
digit. -/
def nearest (x : Rat) (n : Nat) : Decimal :=
  let exponent := decade x - (n : Int)
  ⟨(nearestEven (x / (10 : Rat) ^ exponent)).toNat, exponent⟩

/-- The nearer of two neighbours, `low` below the number and `high` above it. -/
def nearer (x : Rat) (low high : Decimal) : Decimal :=
  let under := x - low.value
  let above := high.value - x
  if under < above then low
  else if above < under then high
  else if low.significand % 2 = 0 then low
  else high

/-- The decimal is read as the double of this size. -/
def readsAs (d : Decimal) (m : Format.double.Magnitude) : Bool :=
  d.toDouble false == .finite false m

/-- The decimal is read as a double that narrows to the single of this size. -/
def narrowsTo (d : Decimal) (m : Format.double.Magnitude) : Bool :=
  (d.toDouble false).toSingle == .finite false m

end Decimal

/-- The exact decimal expansion of a magnitude. -/
def exactDecimal (m : Format.double.Magnitude) : Decimal :=
  if 0 ≤ m.exponent then ⟨m.significand * Nat.pow 2 m.exponent.toNat, 0⟩
  else ⟨m.significand * Nat.pow 5 (-m.exponent).toNat, m.exponent⟩

/-- A decimal with `n` digits that reads back as the double, if there is one among the neighbours. -/
def doubleDigits? (m : Format.double.Magnitude) (n : Nat) : Option Decimal :=
  let low := Decimal.below m.value n
  let high := low.next
  match low.readsAs m, high.readsAs m with
  | true, true => some (Decimal.nearer m.value low high)
  | true, false => some low
  | false, true => some high
  | false, false => none

/-- The shortest decimal that reads back as a positive double. -/
def shortestDouble (m : Format.double.Magnitude) : Decimal :=
  (((List.range 17).findSome? fun i => doubleDigits? m (i + 1)).getD (exactDecimal m)).trimmed

/-- The nearest decimal with `n` digits, if it is read as a double that narrows back. -/
def singleDigits? (m : Format.double.Magnitude) (n : Nat) : Option Decimal :=
  let d := Decimal.nearest m.value n
  if d.narrowsTo m then some d else none

/-- The decimal with the fewest digits that the search for a single finds, and the digits of the
double if the number is no single. -/
def shortestSingle (m : Format.double.Magnitude) : Decimal :=
  match (List.range 9).findSome? fun i => singleDigits? m (i + 1) with
  | some d => d.trimmed
  | none => shortestDouble m

end FieldCode
